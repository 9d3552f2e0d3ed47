import TreeSearch.Proofs.Json.Integers
import TreeSearch.Proofs.Json.Strings
import TreeSearch.Proofs.Json.Values

/-!
# Values are read as written

A value is written by appending to a text. If the text so far leads the reader to a state that
awaits a value, then the text with the value appended leads it behind that value, with the fields of
every object put in order. So a written value is read again, in either layout.
-/

namespace TreeSearch.Json

open State

/-- The reader is in the given state behind the text. -/
def Leads (out : String) (s : State) : Prop := start.Reads (utf8 out) s

/-- The reader is in the given state behind the text, apart from the end of a number. -/
def LeadsBehind (out : String) (target : State) : Prop := ∃ s, Leads out s ∧ s.Settles target

theorem Leads.behind {out : String} {s : State} (leads : Leads out s) : LeadsBehind out s :=
  ⟨s, leads, .self s⟩

theorem Leads.append {out text : String} {s s' : State} (leads : Leads out s)
    (reads : s.Reads (utf8 text) s') : Leads (out ++ text) s' := by
  rw [Leads, utf8_append]
  exact Reads.trans leads reads

theorem Leads.push {out : String} {c : Char} {byte : UInt8} {s s' : State} (leads : Leads out s)
    (encoding : String.utf8EncodeChar c = [byte]) (step : s.step byte = .ok s') :
    Leads (out.push c) s' := by
  rw [Leads, utf8_push, encoding]
  exact Reads.trans leads (.one step)

theorem LeadsBehind.push {out : String} {c : Char} {byte : UInt8} {target s' : State}
    (leads : LeadsBehind out target) (encoding : String.utf8EncodeChar c = [byte])
    (closes : byte ∈ closers) (step : target.step byte = .ok s') : Leads (out.push c) s' := by
  obtain ⟨s, leads, settles⟩ := leads
  rw [Leads, utf8_push, encoding]
  exact Reads.trans leads (settles.reads closes (.one step))

/-! ## Blanks -/

/-- Blanks change nothing. -/
def SkipsBlanks (s : State) : Prop := ∀ byte, isBlank byte = true → s.step byte = .ok s

theorem Leads.pushn_blank {out : String} {s : State} (leads : Leads out s) (skips : SkipsBlanks s)
    (count : Nat) : Leads (out.pushn ' ' count) s := by
  rw [String.pushn_eq_repeat_push]
  induction count with
  | zero => exact leads
  | succ count ih => exact Leads.push (c := ' ') ih rfl (skips 32 rfl)

theorem LeadsBehind.writeBreak {out : String} {target : State} (leads : LeadsBehind out target)
    (skips : SkipsBlanks target) (layout : Layout) (level : Nat) :
    LeadsBehind (layout.writeBreak level out) target := by
  cases layout with
  | compact => exact leads
  | indented =>
      have newline : Leads (out.push '\n') target := leads.push rfl (by decide) (skips 10 rfl)
      exact (newline.pushn_blank skips _).behind

theorem Leads.writeBreak {out : String} {s : State} (leads : Leads out s) (skips : SkipsBlanks s)
    (layout : Layout) (level : Nat) : Leads (layout.writeBreak level out) s := by
  cases layout with
  | compact => exact leads
  | indented => exact Leads.pushn_blank (leads.push rfl (skips 10 rfl)) skips _

/-! ## Values -/

/-- The value is read as its normal form wherever it is written. -/
def ReadsBack (layout : Layout) (v : Json) : Prop :=
  ∀ out s stack level, Leads out s → s.Awaits stack →
    LeadsBehind (write layout level v out) (finish v.normal stack)

theorem reads_word {word : List UInt8} (rest : word ≠ []) (value : Json) (stack : List Frame) :
    Reads ⟨.word word value, stack⟩ word (finish value stack) := by
  induction word with
  | nil => exact absurd rfl rest
  | cons byte word ih =>
      cases word with
      | nil => exact .one (if_pos rfl)
      | cons next word => exact .cons (if_pos rfl) (ih nofun)

/-- A word is started by its first letter. -/
theorem Leads.word {out word : String} {first : UInt8} {rest : List UInt8} {s : State}
    {stack : List Frame} {value : Json} (leads : Leads out s) (awaits : s.Awaits stack)
    (letters : utf8 word = first :: rest) (solid : isBlank first = false) (opens : first ≠ 93)
    (more : rest ≠ []) (begins : beginValue stack first = .ok ⟨.word rest value, stack⟩) :
    LeadsBehind (out ++ word) (finish value stack) := by
  refine (leads.append ?_).behind
  rw [letters]
  exact .cons ((awaits.step_eq solid opens).trans begins) (reads_word more value stack)

theorem Leads.writeString {out : String} {s : State} {inside : ByteArray → Quotation → State}
    {closed : String → State} (leads : Leads out s) (quoting : Quoting inside closed)
    (opens : s.step 34 = .ok (inside .empty .plain)) (text : String) :
    Leads (writeString text out) (closed text) := by
  rw [Leads, utf8_writeString, List.append_assoc]
  exact Reads.trans leads (.cons opens (quoting.reads_string text))

theorem Leads.writeColon {out : String} {fields : Fields Json} {name : String} {stack : List Frame}
    (leads : Leads out ⟨.colon fields name, stack⟩) (layout : Layout) :
    Leads (layout.writeColon out) ⟨.value, .entry fields name :: stack⟩ := by
  cases layout with
  | compact => exact Leads.push (c := ':') leads rfl rfl
  | indented => exact leads.append (.cons rfl (.one rfl))

/-- An item that is read back is put in front of the items before it. -/
theorem ReadsBack.item {layout : Layout} {item : Json} (back : ReadsBack layout item)
    {out : String} {done : List Json} {first : Bool} {stack : List Frame}
    (leads : Leads out ⟨.item done first, stack⟩) (level : Nat) :
    LeadsBehind (write layout level item (layout.writeBreak level out))
      ⟨.afterItem (item.normal :: done), stack⟩ :=
  back _ _ _ level (leads.writeBreak (fun _ blank => if_pos blank) layout level)
    (.item done first stack)

theorem leads_writeItems {layout : Layout} {items : List Json}
    (back : ∀ item ∈ items, ReadsBack layout item) (level : Nat) {out : String} {done : List Json}
    {stack : List Frame} (leads : LeadsBehind out ⟨.afterItem done, stack⟩) :
    LeadsBehind (writeItems layout level false items out)
      ⟨.afterItem ((items.map normal).reverse ++ done), stack⟩ := by
  induction items generalizing out done with
  | nil => exact leads
  | cons item rest ih =>
      have comma : Leads (out.push ',') ⟨.item done false, stack⟩ :=
        leads.push rfl (by decide) rfl
      have behind := (back item List.mem_cons_self).item comma level
      have tail := ih (fun item mem => back item (List.mem_cons_of_mem _ mem)) behind
      rw [writeItems, List.map_cons, List.reverse_cons, List.append_assoc]
      exact tail

/-- A field that is read back is put among the fields before it. -/
theorem ReadsBack.field {layout : Layout} {value : Json} (back : ReadsBack layout value)
    {out : String} {done : Fields Json} {first : Bool} {stack : List Frame}
    (leads : Leads out ⟨.key done first, stack⟩) (name : String) (level : Nat) :
    LeadsBehind
      (write layout level value
        (layout.writeColon (writeString name (layout.writeBreak level out))))
      ⟨.afterEntry (done.insert name value.normal), stack⟩ := by
  have before := leads.writeBreak (fun _ blank => if_pos blank) layout level
  have named := before.writeString (quoting_key done stack) rfl name
  exact back _ _ _ level (named.writeColon layout) (.value _)

theorem leads_writeFields {layout : Layout} {fields : List (String × Json)}
    (back : ∀ field ∈ fields, ReadsBack layout field.2) (level : Nat) {out : String}
    {done : Fields Json} {stack : List Frame} (leads : LeadsBehind out ⟨.afterEntry done, stack⟩) :
    LeadsBehind (writeFields layout level false fields out)
      ⟨.afterEntry ((normalFields fields).foldl (fun fields (name, value) =>
        fields.insert name value) done), stack⟩ := by
  induction fields generalizing out done with
  | nil => exact leads
  | cons field rest ih =>
      obtain ⟨name, value⟩ := field
      have comma : Leads (out.push ',') ⟨.key done false, stack⟩ :=
        leads.push rfl (by decide) rfl
      have behind := (back _ List.mem_cons_self).field comma name level
      rw [writeFields]
      exact ih (fun field mem => back field (List.mem_cons_of_mem _ mem)) behind

/-- A list is read back if its items are. -/
theorem ReadsBack.arr {layout : Layout} {items : List Json}
    (back : ∀ item ∈ items, ReadsBack layout item) : ReadsBack layout (.arr items) := by
  intro out s stack level leads awaits
  have opens : s.step 91 = .ok ⟨.item [] true, stack⟩ := awaits.step_eq rfl (by decide)
  cases items with
  | nil =>
      have closed : Leads (out ++ "[]") (finish (.arr []) stack) :=
        leads.append (.cons opens (.one rfl))
      exact closed.behind
  | cons item rest =>
      have opened : Leads (out.push '[') ⟨.item [] true, stack⟩ := leads.push rfl opens
      have first := (back item List.mem_cons_self).item opened (level + 1)
      have all := leads_writeItems
        (fun item mem => back item (List.mem_cons_of_mem _ mem)) (level + 1) first
      have closed := (all.writeBreak (fun _ blank => if_pos blank) layout level).push
        (c := ']') rfl (by decide) rfl
      rw [List.reverse_append, List.reverse_reverse] at closed
      rw [write, writeItems, normal, normalItems_eq_map]
      exact closed.behind

/-- An object is read back if the values of its fields are. -/
theorem ReadsBack.obj {layout : Layout} {fields : List (String × Json)}
    (back : ∀ field ∈ fields, ReadsBack layout field.2) : ReadsBack layout (.obj fields) := by
  intro out s stack level leads awaits
  have opens : s.step 123 = .ok ⟨.key [] true, stack⟩ := awaits.step_eq rfl (by decide)
  cases fields with
  | nil =>
      have closed : Leads (out ++ "\x7b\x7d") (finish (.obj []) stack) :=
        leads.append (.cons opens (.one rfl))
      exact closed.behind
  | cons field rest =>
      obtain ⟨name, value⟩ := field
      have opened : Leads (out.push '{') ⟨.key [] true, stack⟩ := leads.push rfl opens
      have first := (back _ List.mem_cons_self).field opened name (level + 1)
      have all := leads_writeFields
        (fun field mem => back field (List.mem_cons_of_mem _ mem)) (level + 1) first
      have closed := (all.writeBreak (fun _ blank => if_pos blank) layout level).push
        (c := '}') rfl (by decide) rfl
      rw [write, writeFields, normal]
      exact closed.behind

/-- Every value whose numbers are integers of 64 bits is read back. -/
theorem readsBack_of_integersOnly {v : Json} (integers : v.IntegersOnly) (layout : Layout) :
    ReadsBack layout v := by
  induction v using parts_induction with
  | step v ih =>
      cases v with
      | null =>
          intro out s stack level leads awaits
          exact leads.word awaits rfl rfl (by decide) nofun rfl
      | bool value =>
          intro out s stack level leads awaits
          cases value with
          | true => exact leads.word awaits rfl rfl (by decide) nofun rfl
          | false => exact leads.word awaits rfl rfl (by decide) nofun rfl
      | num n =>
          -- the number stays open behind its last digit, so it is only settled in what follows
          intro out s stack level leads awaits
          obtain ⟨i, rfl, least, greatest⟩ := integers n (.self _)
          obtain ⟨s', reads, settles⟩ := reads_integer awaits least greatest
          exact ⟨s', leads.append reads, settles⟩
      | str text =>
          intro out s stack level leads awaits
          have opens : s.step 34 = .ok ⟨.text .empty .plain, stack⟩ :=
            awaits.step_eq rfl (by decide)
          exact (leads.writeString (quoting_value stack) opens text).behind
      | arr items => exact .arr fun item mem => ih item mem (integers.part mem)
      | obj fields =>
          apply ReadsBack.obj
          intro field mem
          have part : field.2 ∈ (Json.obj fields).parts := List.mem_map_of_mem mem
          exact ih field.2 part (integers.part part)

/-- A written value is read as its normal form. -/
theorem read_write {v : Json} (integers : v.IntegersOnly) (layout : Layout) :
    Document.read (.text (write layout 0 v "")) = .ok ⟨v.normal, none⟩ := by
  have before : Leads "" start := .nil start
  obtain ⟨s, leads, settles⟩ :=
    readsBack_of_integersOnly integers layout "" start [] 0 before (.value [])
  exact read_of_reads leads settles

end TreeSearch.Json
