import TreeSearch.Report
import Mathlib.Data.List.Basic

/-!
# Writing reports

Lines are written one by one, but what a sink takes of them, and whether it takes all, is the same
as if their text were written at once, whatever limit the sink has (`Sink.writeLines_eq_write`). A
sink without a limit takes every text, so what a report writes to it is the text of its parts, one
behind the other.
-/

namespace TreeSearch

/-- The text of lines, each with its end. -/
def linesText (lines : List String) : String := String.join (lines.map (· ++ "\n"))

theorem linesText_cons (line : String) (rest : List String) :
    linesText (line :: rest) = line ++ "\n" ++ linesText rest := by
  simp [linesText]

theorem toUTF8_append (first second : String) :
    (first ++ second).toUTF8 = first.toUTF8 ++ second.toUTF8 := by
  simp [String.toUTF8_eq_toByteArray]

namespace Sink

/-- Behind bytes that were all taken there is as much room as they have left. -/
theorem room_add_of_complete {s : Sink} {bytes : ByteArray}
    (complete : s.room bytes.size = bytes.size) (more : Nat) :
    s.room (bytes.size + more) =
      bytes.size + { s with written := s.written ++ bytes }.room more := by
  obtain ⟨written, limit, failsToFlush⟩ := s
  cases limit with
  | none => rfl
  | some limit =>
      simp only [room, ByteArray.size_append] at complete ⊢
      omega

/-- Behind bytes that were not all taken there is no room. -/
theorem room_add_of_incomplete {s : Sink} {wanted : Nat} (incomplete : s.room wanted ≠ wanted)
    (more : Nat) : s.room (wanted + more) = s.room wanted ∧ s.room wanted < wanted := by
  obtain ⟨written, limit, failsToFlush⟩ := s
  cases limit with
  | none => exact absurd rfl incomplete
  | some limit =>
      simp only [room] at incomplete ⊢
      omega

theorem extract_append_add (first second : ByteArray) (taken : Nat) :
    (first ++ second).extract 0 (first.size + taken) = first ++ second.extract 0 taken := by
  have reach : first.size + taken = max (first.size + taken) first.size := by omega
  have whole : first.extract 0 (first.size + taken) = first := by
    rw [reach]
    exact ByteArray.extract_zero_max_size
  rw [ByteArray.extract_append, whole, Nat.zero_sub, Nat.add_sub_cancel_left]

theorem extract_append_of_le {first : ByteArray} {taken : Nat} (within : taken ≤ first.size)
    (second : ByteArray) : (first ++ second).extract 0 taken = first.extract 0 taken := by
  rw [ByteArray.extract_append, Nat.zero_sub, Nat.sub_eq_zero_of_le within]
  simp

/-- Behind a text that was taken as a whole, writing goes on. -/
theorem write_append_of_complete {s : Sink} {first : String} (complete : (s.write first).2 = true)
    (second : String) : s.write (first ++ second) = (s.write first).1.write second := by
  have all : s.room first.toUTF8.size = first.toUTF8.size := of_decide_eq_true complete
  have further := room_add_of_complete all second.toUTF8.size
  simp only [write, toUTF8_append, ByteArray.size_append, further, all, extract_append_add,
    ByteArray.extract_zero_size, ByteArray.append_assoc, Nat.add_left_cancel_iff]

/-- Behind a text that was not taken as a whole, nothing is taken. -/
theorem write_append_of_incomplete {s : Sink} {first : String}
    (incomplete : (s.write first).2 = false) (second : String) :
    s.write (first ++ second) = s.write first := by
  have part : s.room first.toUTF8.size ≠ first.toUTF8.size := of_decide_eq_false incomplete
  obtain ⟨same, less⟩ := room_add_of_incomplete part second.toUTF8.size
  have never : s.room first.toUTF8.size ≠ first.toUTF8.size + second.toUTF8.size := by omega
  simp only [write, toUTF8_append, ByteArray.size_append, same,
    extract_append_of_le (Nat.le_of_lt less), part, never]

theorem write_empty (s : Sink) : s.write "" = (s, true) := by
  obtain ⟨written, limit, failsToFlush⟩ := s
  cases limit with
  | none => simp [write, room]
  | some limit => simp [write, room]

/-- Lines are taken like their text. -/
theorem writeLines_eq_write (s : Sink) (lines : List String) :
    s.writeLines lines = s.write (linesText lines) := by
  induction lines generalizing s with
  | nil => exact (s.write_empty).symm
  | cons line rest ih =>
      rw [linesText_cons, writeLines]
      rcases first : s.write (line ++ "\n") with ⟨next, complete⟩
      cases complete with
      | true =>
          rw [write_append_of_complete (by rw [first]), first]
          exact ih next
      | false => rw [write_append_of_incomplete (by rw [first]), first]

/-- The sink with a text behind what it has taken. -/
def append (s : Sink) (text : String) : Sink := { s with written := s.written ++ text.toUTF8 }

theorem append_append (s : Sink) (first second : String) :
    (s.append first).append second = s.append (first ++ second) := by
  simp only [append, toUTF8_append, ByteArray.append_assoc]

theorem append_empty (s : Sink) : s.append "" = s := by simp [append]

/-- A sink without a limit takes every text. -/
theorem write_of_unlimited {s : Sink} (unlimited : s.limit = none) (text : String) :
    s.write text = (s.append text, true) := by
  simp only [write, room, unlimited, append, ByteArray.extract_zero_size, decide_true]

end Sink

namespace Report

/-- The text of a result. -/
def entryText (separator : String) (m : Match Node) : String :=
  String.join
    ["COMMAND: \n    ", m.path.render separator, "\nAST_PRINT: \n", m.node.pretty, "\n\n"]

theorem linesText_entry (separator : String) (m : Match Node) :
    linesText (entry separator m.node m.path) = entryText separator m := by
  apply String.toList_inj.mp
  simp [linesText, entry, entryText]

theorem linesText_banner_append (lines : List String) :
    linesText (banner ++ lines) = "Found!\n\n" ++ linesText lines := by
  apply String.toList_inj.mp
  simp [linesText, banner]

variable {sink : Sink} (unlimited : sink.limit = none) (separator : String)

include unlimited

theorem writeLines_of_unlimited (found : Bool) (lines : List String) :
    (⟨sink, separator, found⟩ : Report).writeLines lines =
      (⟨sink.append (linesText lines), separator, found⟩, .ok ()) := by
  simp only [writeLines, Sink.writeLines_eq_write, Sink.write_of_unlimited unlimited, if_true]

/-- A result is taken as a whole, with the banner in front of the first one. -/
theorem result_of_unlimited (found : Bool) (m : Match Node) :
    (⟨sink, separator, found⟩ : Report).result m.node m.path =
      (⟨sink.append ((if found then "" else "Found!\n\n") ++ entryText separator m), separator,
        true⟩, .ok ()) := by
  have taken := writeLines_of_unlimited unlimited separator true
  cases found with
  | true => simp [result, taken, linesText_entry]
  | false => simp [result, taken, linesText_banner_append, linesText_entry]

/-- Behind the first result, results are taken one behind the other. -/
theorem results_of_unlimited (found : List (Match Node)) :
    (⟨sink, separator, true⟩ : Report).results found =
      (⟨sink.append (String.join (found.map (entryText separator))), separator, true⟩,
        .ok ()) := by
  induction found generalizing sink with
  | nil => simp [results, Sink.append_empty]
  | cons m rest ih =>
      have further : (sink.append (entryText separator m)).limit = none := unlimited
      rw [results, result_of_unlimited unlimited]
      simp only [if_true, String.empty_append]
      rw [ih further, Sink.append_append]
      simp

/-- The end of a report says if there was no result. -/
theorem finish_of_unlimited (flushes : sink.failsToFlush = false) (found : Bool) :
    (⟨sink, separator, found⟩ : Report).finish =
      (⟨sink.append (if found then "" else "Not found.\n"), separator, found⟩, .ok ()) := by
  rw [finish, writeLines_of_unlimited unlimited]
  cases found with
  | true => simp [linesText, flushes, Sink.append]
  | false => simp [linesText, flushes, Sink.append]

end Report

end TreeSearch
