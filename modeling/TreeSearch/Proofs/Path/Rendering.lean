import TreeSearch.Path
import Mathlib.Data.List.TakeWhile

/-!
# Reading rendered paths

A rendering is read from left to right, one segment at a time (`Segment.leading`). A separator
inside a key or a type ends no segment, as both are read up to the bracket that closes them. So a
rendered path that begins with another one, with a separator or nothing behind it, begins with the
segments of the other one as they are rendered (`Segment.prefix_of_dotted`). This holds of plain
segments, in which no name, key or type contains a character that would end it too early.
-/

namespace TreeSearch

namespace Segment

/-- The name is not empty, and has none of the characters that begin or end another part. -/
def PlainName (name : String) : Prop := name.toList ≠ [] ∧ ∀ c ∈ name.toList, c ∉ ['.', '[', '(']

-- Decided on the characters of the name; other instances go through all characters there are.
instance (name : String) : Decidable (PlainName name) :=
  decidable_of_iff (name.toList ≠ [] ∧ (name.toList.all fun c => c ∉ ['.', '[', '(']) = true)
    (by rw [PlainName, List.all_eq_true]; simp only [decide_eq_true_eq])

/-- No part of the segment contains a character that ends the part. -/
def Plain : Segment → Prop
  | .field name | .index name _ => PlainName name
  | .key name entry => PlainName name ∧ ']' ∉ entry.toList
  | .kind typeName => ')' ∉ typeName.toList

/-- Characters that do not end a name. -/
def isNameChar (c : Char) : Bool := c ≠ '.' && c ≠ '['

/-- The text up to and with a closing character. -/
def through (closing : Char) (text : List Char) : List Char :=
  text.takeWhile (· ≠ closing) ++ [closing]

/-- The part of a text that renders its first segment. -/
def leading (text : List Char) : List Char :=
  if text.head? = some '(' then through ')' text
  else
    let rest := text.dropWhile isNameChar
    text.takeWhile isNameChar ++ if rest.head? = some '[' then through ']' rest else []

/-- A segment can end before the text: there is none, or a separator comes first. -/
def Separates (text : List Char) : Prop := ∀ c ∈ text.head?, c = '.'

theorem through_append {closing : Char} {text : List Char} (absent : closing ∉ text)
    (rest : List Char) : through closing (text ++ closing :: rest) = text ++ [closing] := by
  have before : ∀ c ∈ text, decide (c ≠ closing) = true := by
    intro c mem
    exact decide_eq_true fun same => absent (same ▸ mem)
  rw [through, List.takeWhile_append_of_pos before, List.takeWhile_cons_of_neg (by simp),
    List.append_nil]

namespace PlainName

variable {name : String}

theorem isNameChar (plain : PlainName name) : ∀ c ∈ name.toList, isNameChar c = true := by
  intro c mem
  have other := plain.2 c mem
  simp only [List.mem_cons, not_or] at other
  simp [Segment.isNameChar, other.1, other.2.1]

theorem takeWhile_append (plain : PlainName name) {rest : List Char}
    (stops : ∀ c ∈ rest.head?, Segment.isNameChar c = false) :
    (name.toList ++ rest).takeWhile Segment.isNameChar = name.toList := by
  rw [List.takeWhile_append_of_pos plain.isNameChar]
  cases rest with
  | nil => exact List.append_nil _
  | cons c rest => simp [stops c rfl]

theorem dropWhile_append (plain : PlainName name) {rest : List Char}
    (stops : ∀ c ∈ rest.head?, Segment.isNameChar c = false) :
    (name.toList ++ rest).dropWhile Segment.isNameChar = rest := by
  rw [List.dropWhile_append_of_pos plain.isNameChar]
  cases rest with
  | nil => rfl
  | cons c rest => simp [stops c rfl]

/-- A text that begins with a plain name is read as the name and what stands in brackets. -/
theorem leading_append (plain : PlainName name) {rest : List Char}
    (stops : ∀ c ∈ rest.head?, Segment.isNameChar c = false) :
    leading (name.toList ++ rest) =
      name.toList ++ if rest.head? = some '[' then through ']' rest else [] := by
  have noType : (name.toList ++ rest).head? ≠ some '(' := by
    intro opens
    obtain ⟨c, others, chars⟩ := List.exists_cons_of_ne_nil plain.1
    rw [chars, List.cons_append, List.head?_cons, Option.some.injEq] at opens
    have other := plain.2 c (by rw [chars]; exact List.mem_cons_self)
    simp [opens] at other
  rw [leading, if_neg noType, plain.takeWhile_append stops, plain.dropWhile_append stops]

theorem leading_bracket (plain : PlainName name) {entry : String} (absent : ']' ∉ entry.toList)
    (rest : List Char) :
    leading ((name ++ "[" ++ entry ++ "]").toList ++ rest) =
      (name ++ "[" ++ entry ++ "]").toList := by
  have text : (name ++ "[" ++ entry ++ "]").toList ++ rest =
      name.toList ++ (('[' :: entry.toList) ++ ']' :: rest) := by
    simp [String.toList_append]
  have opens : (('[' :: entry.toList) ++ ']' :: rest).head? = some '[' := rfl
  have inside : ']' ∉ '[' :: entry.toList := by simp [absent]
  rw [text, plain.leading_append (by rintro c ⟨⟩; rfl), if_pos opens, through_append inside]
  simp [String.toList_append]

end PlainName

/-- A rendered segment is read as it is, whatever comes after the separator. -/
theorem leading_render {s : Segment} (plain : s.Plain) {rest : List Char}
    (separates : Separates rest) : leading (s.render.toList ++ rest) = s.render.toList := by
  cases s with
  | field name =>
      have stops : ∀ c ∈ rest.head?, isNameChar c = false := by
        intro c mem
        rw [separates c mem]
        rfl
      have noBracket : rest.head? ≠ some '[' := by
        intro opens
        cases separates '[' opens
      rw [render, PlainName.leading_append plain stops, if_neg noBracket, List.append_nil]
  | index name position =>
      have absent : ']' ∉ position.repr.toList := by
        rw [Nat.toList_repr]
        intro mem
        cases Nat.isDigit_of_mem_toDigits (by decide) (by decide) mem
      exact PlainName.leading_bracket plain absent rest
  | key name entry => exact plain.1.leading_bracket plain.2 rest
  | kind typeName =>
      have text : ("(" ++ typeName ++ ")").toList ++ rest =
          ('(' :: typeName.toList) ++ ')' :: rest := by
        simp [String.toList_append]
      have opens : (('(' :: typeName.toList) ++ ')' :: rest).head? = some '(' := rfl
      have absent : ')' ∉ typeName.toList := plain
      have inside : ')' ∉ '(' :: typeName.toList := by simp [absent]
      rw [render, text, leading, if_pos opens, through_append inside]
      simp [String.toList_append]

/-- Segments as they are rendered, with a separator before each of them. -/
def dotted (segments : List Segment) : List Char :=
  segments.flatMap fun s => '.' :: s.render.toList

theorem separates_dotted (segments : List Segment) : Separates (dotted segments) := by
  cases segments with
  | nil => exact nofun
  | cons s rest => rintro c ⟨⟩; rfl

theorem separates_dotted_append (segments : List Segment) {rest : List Char}
    (separates : Separates rest) : Separates (dotted segments ++ rest) := by
  cases segments with
  | nil => exact separates
  | cons s others => rintro c ⟨⟩; rfl

/-- A text of rendered segments that begins with others, before a separator or the end, begins with
the same renderings. -/
theorem prefix_of_dotted {us ts : List Segment} (plainUs : ∀ s ∈ us, s.Plain)
    (plainTs : ∀ s ∈ ts, s.Plain) {rest : List Char} (separates : Separates rest)
    (begins : dotted us ++ rest = dotted ts) : us.map render <+: ts.map render := by
  induction us generalizing ts with
  | nil => exact List.nil_prefix
  | cons u us ih =>
      cases ts with
      | nil => cases begins
      | cons t ts =>
          have read : u.render.toList ++ (dotted us ++ rest) = t.render.toList ++ dotted ts := by
            simpa [dotted] using begins
          have same : u.render.toList = t.render.toList := by
            rw [← leading_render (plainUs u List.mem_cons_self)
              (separates_dotted_append us separates), read,
              leading_render (plainTs t List.mem_cons_self) (separates_dotted ts)]
          rw [same, List.append_cancel_left_eq] at read
          rw [List.map_cons, List.map_cons, String.toList_inj.mp same, List.prefix_cons_inj]
          exact ih (fun s mem => plainUs s (List.mem_cons_of_mem _ mem))
            (fun s mem => plainTs s (List.mem_cons_of_mem _ mem)) read

/-- A separator before the joined renderings is one before each of them. -/
theorem dotted_eq_cons {segments : List Segment} (nonempty : segments ≠ []) :
    dotted segments =
      '.' :: (Path.defaultSeparator.intercalate (segments.map render)).toList := by
  rw [String.toList_intercalate, List.map_map]
  induction segments with
  | nil => exact absurd rfl nonempty
  | cons s rest ih =>
      rw [dotted, List.flatMap_cons, ← dotted, List.map_cons]
      cases rest with
      | nil => simp [dotted]
      | cons next rest =>
          rw [ih (List.cons_ne_nil _ _), List.map_cons, List.intercalate_cons_cons]
          simp [Path.defaultSeparator]

/-- Elements of a list differ in their renderings. -/
theorem render_index_injective (name : String) :
    Function.Injective fun position => (index name position).render := by
  intro i j same
  have digits : Nat.toDigits 10 i = Nat.toDigits 10 j := by
    simpa [render, String.toList_append] using congrArg String.toList same
  rw [← Nat.ofDigitChars_ten_toDigits (n := i), digits, Nat.ofDigitChars_ten_toDigits]

/-- Entries of a keyed map differ in their renderings, whatever characters their keys have. -/
theorem render_key_injective (name : String) :
    Function.Injective fun entry => (key name entry).render := by
  intro a b same
  have chars : a.toList = b.toList := by
    simpa [render, String.toList_append] using congrArg String.toList same
  exact String.toList_inj.mp chars

theorem render_ne_nil {s : Segment} (plain : s.Plain) : s.render.toList ≠ [] := by
  cases s with
  | field name => exact And.left plain
  | _ => simp [render, String.toList_append]

end Segment

namespace Path

/-- Only the path of the root is rendered as nothing. -/
theorem segments_eq_nil {p : Path} (plain : ∀ s ∈ p.segments, s.Plain)
    (empty : (p.render defaultSeparator).toList = []) : p.segments = [] := by
  by_contra nonempty
  have text := Segment.dotted_eq_cons nonempty
  rw [← render, empty] at text
  obtain ⟨s, rest, segments⟩ := List.exists_cons_of_ne_nil nonempty
  have first : s.Plain := plain s (by rw [segments]; exact List.mem_cons_self)
  simp [segments, Segment.dotted, Segment.render_ne_nil first] at text

/-- A rendered path that begins with another one, before a separator or the end, begins with the
renderings of the segments of the other one. -/
theorem prefix_of_render {p q : Path} (plainP : ∀ s ∈ p.segments, s.Plain)
    (plainQ : ∀ s ∈ q.segments, s.Plain) (nonempty : p.segments ≠ []) {rest : List Char}
    (separates : Segment.Separates rest)
    (begins : (p.render defaultSeparator).toList ++ rest = (q.render defaultSeparator).toList) :
    p.segments.map Segment.render <+: q.segments.map Segment.render := by
  have other : q.segments ≠ [] := by
    intro root
    have nothing : (q.render defaultSeparator).toList = [] := by
      rw [render, root]
      rfl
    rw [nothing] at begins
    exact nonempty (segments_eq_nil plainP (List.append_eq_nil_iff.mp begins).1)
  refine Segment.prefix_of_dotted plainP plainQ separates ?_
  rw [Segment.dotted_eq_cons nonempty, Segment.dotted_eq_cons other, List.cons_append]
  exact congrArg _ begins

end Path

end TreeSearch
