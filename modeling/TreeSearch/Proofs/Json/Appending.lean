import TreeSearch.Node.Basic
import TreeSearch.Proofs.Json.Strings
import TreeSearch.Proofs.Json.Values

/-!
# Writing appends

Whatever is written goes behind the text so far, which stays in front (`extends_write`). So the text
of an object begins with a brace, and that of a node does (`Node.head?_utf8_pretty`).
-/

namespace TreeSearch.Json

/-- The second text begins with the first. -/
def Extends (out out' : String) : Prop := utf8 out <+: utf8 out'

theorem Extends.trans {a b c : String} (first : Extends a b) (second : Extends b c) : Extends a c :=
  List.IsPrefix.trans first second

theorem extends_append (out text : String) : Extends out (out ++ text) := by
  rw [Extends, utf8_append]
  exact List.prefix_append _ _

theorem extends_push (out : String) (c : Char) : Extends out (out.push c) := by
  rw [Extends, utf8_push]
  exact List.prefix_append _ _

theorem extends_pushn (out : String) (c : Char) (count : Nat) :
    Extends out (out.pushn c count) := by
  rw [String.pushn_eq_repeat_push]
  induction count with
  | zero => exact List.prefix_refl _
  | succ count ih => exact ih.trans (extends_push _ c)

theorem extends_writeString (text out : String) : Extends out (writeString text out) := by
  rw [Extends, utf8_writeString, List.append_assoc]
  exact List.prefix_append _ _

namespace Layout

theorem extends_writeBreak (layout : Layout) (level : Nat) (out : String) :
    Extends out (layout.writeBreak level out) := by
  cases layout with
  | compact => exact List.prefix_refl _
  | indented => exact (extends_push out _).trans (extends_pushn _ _ _)

theorem extends_writeColon (layout : Layout) (out : String) :
    Extends out (layout.writeColon out) := by
  cases layout with
  | compact => exact extends_push out _
  | indented => exact extends_append out _

theorem extends_writeComma (first : Bool) (out : String) : Extends out (writeComma first out) := by
  cases first with
  | true => exact List.prefix_refl _
  | false => exact extends_push out _

end Layout

open Layout

theorem extends_writeItems {layout : Layout} {items : List Json}
    (each : ∀ item ∈ items, ∀ level out, Extends out (write layout level item out)) (level : Nat)
    (first : Bool) (out : String) : Extends out (writeItems layout level first items out) := by
  induction items generalizing first out with
  | nil => exact List.prefix_refl _
  | cons item rest ih =>
      rw [writeItems]
      have before := (extends_writeComma first out).trans (extends_writeBreak layout level _)
      have behind := before.trans (each item List.mem_cons_self level _)
      exact behind.trans (ih (fun item mem => each item (List.mem_cons_of_mem _ mem)) false _)

theorem extends_writeFields {layout : Layout} {fields : List (String × Json)}
    (each : ∀ field ∈ fields, ∀ level out, Extends out (write layout level field.2 out))
    (level : Nat) (first : Bool) (out : String) :
    Extends out (writeFields layout level first fields out) := by
  induction fields generalizing first out with
  | nil => exact List.prefix_refl _
  | cons field rest ih =>
      obtain ⟨name, value⟩ := field
      rw [writeFields]
      have before := (extends_writeComma first out).trans (extends_writeBreak layout level _)
      have named := (before.trans (extends_writeString name _)).trans (extends_writeColon layout _)
      have behind := named.trans (each (name, value) List.mem_cons_self level _)
      exact behind.trans (ih (fun field mem => each field (List.mem_cons_of_mem _ mem)) false _)

theorem extends_write_arr {layout : Layout} {item : Json} {rest : List Json}
    (each : ∀ part ∈ item :: rest, ∀ level out, Extends out (write layout level part out))
    (level : Nat) (out : String) :
    Extends (out.push '[') (write layout level (.arr (item :: rest)) out) := by
  rw [write]
  have inside := extends_writeItems each (level + 1) true (out.push '[')
  have behind := inside.trans (extends_writeBreak layout level _)
  exact behind.trans (extends_push _ ']')

theorem extends_write_obj {layout : Layout} {field : String × Json} {rest : List (String × Json)}
    (each : ∀ part ∈ field :: rest, ∀ level out, Extends out (write layout level part.2 out))
    (level : Nat) (out : String) :
    Extends (out.push '{') (write layout level (.obj (field :: rest)) out) := by
  rw [write]
  have inside := extends_writeFields each (level + 1) true (out.push '{')
  have behind := inside.trans (extends_writeBreak layout level _)
  exact behind.trans (extends_push _ '}')

/-- A value is written behind the text so far. -/
theorem extends_write (layout : Layout) (v : Json) (level : Nat) (out : String) :
    Extends out (write layout level v out) := by
  induction v using parts_induction generalizing level out with
  | step v ih =>
      cases v with
      | null => exact extends_append out _
      | bool value =>
          cases value with
          | true => exact extends_append out _
          | false => exact extends_append out _
      | num n => exact extends_append out _
      | str text => exact extends_writeString text out
      | arr items =>
          cases items with
          | nil => exact extends_append out _
          | cons item rest => exact (extends_push out '[').trans (extends_write_arr ih level out)
      | obj fields =>
          cases fields with
          | nil => exact extends_append out _
          | cons field rest =>
              have each : ∀ part ∈ field :: rest, ∀ level out,
                  Extends out (write layout level part.2 out) :=
                fun part mem => ih part.2 (List.mem_map_of_mem mem)
              exact (extends_push out '{').trans (extends_write_obj each level out)

end TreeSearch.Json

/-- The text of a node begins with a brace. -/
theorem TreeSearch.Node.head?_utf8_pretty (n : Node) : (Json.utf8 n.pretty).head? = some 123 := by
  obtain ⟨kind, members⟩ := n
  have brace : Json.Extends ("".push '{') (Node.mk kind members).pretty := by
    rw [Node.pretty, Json.pretty, Node.toJson]
    exact Json.extends_write_obj (fun part _ => Json.extends_write .indented part.2) 0 ""
  obtain ⟨rest, text⟩ := brace
  rw [← text]
  rfl
