import TreeSearch.Proofs.Json.Appending
import TreeSearch.Proofs.Report.Writing
import Mathlib.Data.List.TakeDrop

/-!
# Reports to a sink that fails

A report is written step by step, and the sink may take less than all of a step, recover, and fail
again. Each step has a text that it is meant to write (`Report.Step.text`), and of this text the
sink takes the longest front that fits (`Report.longestFitting_added`). The text depends only on
whether a result was attempted before, so a report that is cut short goes on as if nothing had
happened: the banner is begun at most once, and never where it is said that nothing was found.
-/

namespace TreeSearch

open Json (utf8 utf8_append)

/-- `taken` is the longest front of the text that fits behind the bytes that are present: it is
empty or keeps within the limit, and no longer front does. -/
structure LongestFitting (limit : Option Nat) (present text taken : List UInt8) : Prop where
  front : taken <+: text
  within : taken = [] ∨ ∀ n ∈ limit, present.length + taken.length ≤ n
  longest : ∀ other, other <+: text → (∀ n ∈ limit, present.length + other.length ≤ n) →
    other <+: taken

namespace Sink

/-- The bytes that the sink has taken. -/
def bytes (s : Sink) : List UInt8 := s.written.data.toList

/-- The bytes that the sink takes of a text. -/
def taken (s : Sink) (text : String) : List UInt8 := (utf8 text).take (s.room (utf8 text).length)

theorem size_toUTF8 (text : String) : text.toUTF8.size = (utf8 text).length := rfl

theorem bytes_write (s : Sink) (text : String) :
    (s.write text).1.bytes = s.bytes ++ s.taken text := by
  simp only [write, bytes, taken, size_toUTF8, ByteArray.data_append, ByteArray.data_extract,
    Array.toList_append, Array.toList_extract]
  rfl

theorem room_le (s : Sink) (wanted : Nat) : s.room wanted ≤ wanted := by
  unfold room
  split
  · exact Nat.le_refl wanted
  · exact Nat.min_le_left _ _

theorem write_complete_iff (s : Sink) (text : String) :
    (s.write text).2 = true ↔ s.taken text = utf8 text := by
  rw [taken, List.take_eq_self_iff]
  constructor
  · intro complete
    have all : s.room (utf8 text).length = (utf8 text).length := of_decide_eq_true complete
    exact all.ge
  · intro enough
    exact decide_eq_true (Nat.le_antisymm (s.room_le _) enough)

/-- The bytes that are taken of a text are as many as fit. -/
theorem longestFitting_taken (s : Sink) (text : String) :
    LongestFitting s.limit s.bytes (utf8 text) (s.taken text) := by
  have length : s.written.size = s.bytes.length := rfl
  constructor
  · exact List.take_prefix _ _
  · cases limit : s.limit with
    | none => exact .inr nofun
    | some n =>
        rcases Nat.le_total n s.bytes.length with full | free
        · left
          have none : s.room (utf8 text).length = 0 := by
            simp only [room, limit, length]
            omega
          rw [taken, none, List.take_zero]
        · right
          rintro _ ⟨⟩
          simp only [taken, room, limit, length, List.length_take]
          omega
  · intro other front fits
    rw [taken, List.prefix_take_iff]
    refine ⟨front, ?_⟩
    have shorter := front.length_le
    cases limit : s.limit with
    | none =>
        simp only [room, limit]
        exact shorter
    | some n =>
        have within := fits n limit
        simp only [room, limit, length]
        omega

end Sink

namespace Report

/-- What can be asked of a report. -/
inductive Step where
  | result (m : Match Node)
  | tree (root : Node)
  | finish

namespace Step

/-- Whether the step writes a result. -/
def isResult : Step → Bool
  | .result _ => true
  | .tree _ | .finish => false

/-- Whether the step ends the report. -/
def isFinish : Step → Bool
  | .finish => true
  | .result _ | .tree _ => false

/-- The text that a step is meant to write. `attempted` tells whether a result was to be written
before. -/
def text (separator : String) (attempted : Bool) : Step → String
  | .result m => (if attempted then "" else "Found!\n\n") ++ entryText separator m
  | .tree root => root.pretty ++ "\n"
  | .finish => if attempted then "" else "Not found.\n"

end Step

/-- A step, and what the sink is like while it is made: the number of bytes that it takes in all, if
there is a limit, and whether it fails to pass them on. -/
structure Move where
  step : Step
  limit : Option Nat
  failsToFlush : Bool

/-- Makes a step. -/
def perform (r : Report) : Step → Report × Except ReportError Unit
  | .result m => r.result m.node m.path
  | .tree root => r.tree root
  | .finish => r.finish

/-- A step writes its text, and succeeds if all of it is taken and the end is passed on. Whether it
succeeds or not, a result counts as found. -/
theorem perform_eq (r : Report) (step : Step) :
    r.perform step =
      (⟨(r.sink.write (step.text r.separator r.found)).1, r.separator, r.found || step.isResult⟩,
        if (r.sink.write (step.text r.separator r.found)).2 &&
          !(step.isFinish && r.sink.failsToFlush) then .ok () else .error .writeFailure) := by
  obtain ⟨sink, separator, found⟩ := r
  cases step with
  | result m =>
      have text : linesText (if found then entry separator m.node m.path
          else banner ++ entry separator m.node m.path) =
            (Step.result m).text separator found := by
        cases found with
        | true => simp [Step.text, linesText_entry]
        | false => simp [Step.text, linesText_banner_append, linesText_entry]
      simp [perform, result, writeLines, Sink.writeLines_eq_write, text, Step.isResult,
        Step.isFinish]
  | tree root =>
      have text : linesText [root.pretty] = (Step.tree root).text separator found := by
        simp [linesText, Step.text]
      simp [perform, tree, writeLines, Sink.writeLines_eq_write, text, Step.isResult, Step.isFinish]
  | finish =>
      have text : linesText (if found then [] else ["Not found."]) =
          Step.finish.text separator found := by
        cases found <;> simp [linesText, Step.text]
      have flush (told : String) : (sink.write told).1.failsToFlush = sink.failsToFlush := rfl
      simp only [perform, finish, writeLines, Sink.writeLines_eq_write, text]
      cases complete : (sink.write (Step.finish.text separator found)).2 with
      | true =>
          cases fails : sink.failsToFlush <;>
            simp [flush, fails, Step.isResult, Step.isFinish]
      | false => simp [Step.isResult, Step.isFinish]

/-- The sink as it is during a move. -/
def sinkDuring (r : Report) (m : Move) : Sink :=
  { r.sink with limit := m.limit, failsToFlush := m.failsToFlush }

/-- Makes a move. -/
def move (r : Report) (m : Move) : Report × Except ReportError Unit :=
  { r with sink := r.sinkDuring m }.perform m.step

/-- The bytes that a move adds to those that the sink has taken. -/
def added (r : Report) (m : Move) : List UInt8 :=
  (r.move m).1.sink.bytes.drop r.sink.bytes.length

/-- The text that a move is meant to write. -/
def moveText (r : Report) (m : Move) : String := m.step.text r.separator r.found

theorem bytes_move (r : Report) (m : Move) :
    (r.move m).1.sink.bytes = r.sink.bytes ++ (r.sinkDuring m).taken (r.moveText m) := by
  rw [move, perform_eq]
  exact Sink.bytes_write _ _

theorem added_eq (r : Report) (m : Move) :
    r.added m = (r.sinkDuring m).taken (r.moveText m) := by
  rw [added, bytes_move, List.drop_left]

theorem found_move (r : Report) (m : Move) :
    (r.move m).1.found = (r.found || m.step.isResult) := by
  rw [move, perform_eq]

theorem separator_move (r : Report) (m : Move) : (r.move m).1.separator = r.separator := by
  rw [move, perform_eq]

/-- A move adds the longest front of its text that fits. -/
theorem longestFitting_added (r : Report) (m : Move) :
    LongestFitting m.limit r.sink.bytes (utf8 (r.moveText m)) (r.added m) := by
  rw [added_eq]
  exact Sink.longestFitting_taken (r.sinkDuring m) (r.moveText m)

/-- A move fails exactly if not all of its text is taken, or if it ends the report and the sink
fails to pass the bytes on. -/
theorem move_eq_error_iff (r : Report) (m : Move) :
    (r.move m).2 = .error .writeFailure ↔
      r.added m ≠ utf8 (r.moveText m) ∨ m.step.isFinish = true ∧ m.failsToFlush = true := by
  have complete := (r.sinkDuring m).write_complete_iff (r.moveText m)
  rw [added_eq, ne_eq, ← complete, move, perform_eq]
  change (if ((r.sinkDuring m).write (r.moveText m)).2 &&
    !(m.step.isFinish && m.failsToFlush) then _ else _) = _ ↔ _
  cases ((r.sinkDuring m).write (r.moveText m)).2 <;> cases m.step.isFinish <;>
    cases m.failsToFlush <;> simp

/-- The report after moves, whether they succeed or not. -/
def after (r : Report) (moves : List Move) : Report := moves.foldl (fun r m => (r.move m).1) r

/-- Whether a result was to be written. -/
def attempted (moves : List Move) : Bool := moves.any fun m => m.step.isResult

theorem after_concat (r : Report) (moves : List Move) (m : Move) :
    r.after (moves ++ [m]) = ((r.after moves).move m).1 := by
  simp [after]

theorem found_after (r : Report) (moves : List Move) :
    (r.after moves).found = (r.found || attempted moves) := by
  induction moves generalizing r with
  | nil => simp [after, attempted]
  | cons m rest ih =>
      have further := ih (r.move m).1
      rw [found_move, Bool.or_assoc] at further
      exact further

theorem separator_after (r : Report) (moves : List Move) :
    (r.after moves).separator = r.separator := by
  induction moves generalizing r with
  | nil => rfl
  | cons m rest ih => exact (ih (r.move m).1).trans (separator_move r m)

/-- The bytes that moves add, one move after the other. -/
def additions (r : Report) : List Move → List (List UInt8)
  | [] => []
  | m :: rest => r.added m :: (r.move m).1.additions rest

theorem bytes_after (r : Report) (moves : List Move) :
    (r.after moves).sink.bytes = r.sink.bytes ++ (r.additions moves).flatten := by
  induction moves generalizing r with
  | nil => simp [after, additions]
  | cons m rest ih =>
      calc (r.after (m :: rest)).sink.bytes
          _ = (r.move m).1.sink.bytes ++ ((r.move m).1.additions rest).flatten := ih (r.move m).1
          _ = r.sink.bytes ++ (r.added m ++ ((r.move m).1.additions rest).flatten) := by
            rw [bytes_move, added_eq, List.append_assoc]

end Report

/-- The bytes begin the text: as far as both reach, they agree. -/
def Begins (text : String) (bytes : List UInt8) : Prop :=
  bytes ≠ [] ∧ (bytes <+: utf8 text ∨ utf8 text <+: bytes)

instance (text : String) (bytes : List UInt8) : Decidable (Begins text bytes) :=
  inferInstanceAs (Decidable (_ ∧ _))

theorem head?_eq_of_front {front whole : List UInt8} (nonempty : front ≠ [])
    (begins : front <+: whole) : front.head? = whole.head? := by
  obtain ⟨rest, rfl⟩ := begins
  rw [List.head?_append_of_ne_nil _ nonempty]

/-- Bytes that begin a text have its first byte. -/
theorem Begins.head? {text : String} {bytes : List UInt8} (nonempty : utf8 text ≠ [])
    (begins : Begins text bytes) : bytes.head? = (utf8 text).head? := by
  obtain ⟨some, shorter | longer⟩ := begins
  · exact head?_eq_of_front some shorter
  · exact (head?_eq_of_front nonempty longer).symm

theorem head?_utf8_append {first : String} {byte : UInt8} (begins : (utf8 first).head? = some byte)
    (rest : String) : (utf8 (first ++ rest)).head? = some byte := by
  rw [utf8_append, List.head?_append, begins, Option.some_or]

namespace Report

/-- The first byte of the text of a step. -/
def Step.firstByte (attempted : Bool) : Step → Option UInt8
  | .result _ => some (if attempted then 67 else 70)
  | .tree _ => some 123
  | .finish => if attempted then none else some 78

theorem Step.head?_utf8_text (step : Step) (separator : String) (attempted : Bool) :
    (utf8 (step.text separator attempted)).head? = step.firstByte attempted := by
  cases step with
  | result m =>
      cases attempted with
      | true =>
          rw [text, if_pos rfl, String.empty_append, entryText, String.join_cons]
          exact head?_utf8_append rfl _
      | false => exact head?_utf8_append rfl _
  | tree root => exact head?_utf8_append root.head?_utf8_pretty "\n"
  | finish =>
      cases attempted with
      | true => rfl
      | false => rfl

/-- The bytes that a move adds have the first byte of its text if they begin a text. -/
theorem firstByte_of_begins {r : Report} {m : Move} {text : String} (byte : UInt8)
    (first : (utf8 text).head? = some byte) (begins : Begins text (r.added m)) :
    m.step.firstByte r.found = some byte := by
  have nonempty : utf8 text ≠ [] := by
    intro empty
    rw [empty] at first
    cases first
  have front := (r.longestFitting_added m).front
  rw [← m.step.head?_utf8_text r.separator, ← first, ← begins.head? nonempty]
  exact (head?_eq_of_front begins.1 front).symm

/-- The banner is begun by the first result that is attempted. -/
theorem result_of_begins_banner {r : Report} {m : Move} (begins : Begins "Found!\n\n" (r.added m)) :
    r.found = false ∧ m.step.isResult = true := by
  have first := firstByte_of_begins 70 rfl begins
  cases found : r.found <;> cases step : m.step <;>
    simp_all [Step.firstByte, Step.isResult]

/-- It is said at the end that nothing was found, and only if no result was attempted. -/
theorem finish_of_begins_notFound {r : Report} {m : Move}
    (begins : Begins "Not found.\n" (r.added m)) :
    r.found = false ∧ m.step.isFinish = true := by
  have first := firstByte_of_begins 78 rfl begins
  cases found : r.found <;> cases step : m.step <;>
    simp_all [Step.firstByte, Step.isFinish]

/-- After a result was attempted, no move begins the banner or says that nothing was found. -/
theorem not_begins_of_found {r : Report} (found : r.found = true) {moves : List Move}
    {bytes : List UInt8} (mem : bytes ∈ r.additions moves) :
    ¬ Begins "Found!\n\n" bytes ∧ ¬ Begins "Not found.\n" bytes := by
  induction moves generalizing r with
  | nil => cases mem
  | cons m rest ih =>
      rcases List.mem_cons.mp mem with rfl | later
      · constructor
        · intro begins
          cases found.symm.trans (result_of_begins_banner begins).1
        · intro begins
          cases found.symm.trans (finish_of_begins_notFound begins).1
      · have further : (r.move m).1.found = true := by rw [found_move, found, Bool.true_or]
        exact ih further later

theorem found_move_of_begins {r : Report} {m : Move} (begins : Begins "Found!\n\n" (r.added m)) :
    (r.move m).1.found = true := by
  rw [found_move, (result_of_begins_banner begins).2, Bool.or_true]

/-- The banner is begun at most once. -/
theorem countP_begins_banner_le (r : Report) (moves : List Move) :
    (r.additions moves).countP (fun bytes => Begins "Found!\n\n" bytes) ≤ 1 := by
  induction moves generalizing r with
  | nil => exact Nat.zero_le 1
  | cons m rest ih =>
      rw [additions, List.countP_cons]
      by_cases begins : Begins "Found!\n\n" (r.added m)
      · have none : ((r.move m).1.additions rest).countP
            (fun bytes => Begins "Found!\n\n" bytes) = 0 := by
          rw [List.countP_eq_zero]
          intro bytes mem again
          have found := found_move_of_begins begins
          exact (not_begins_of_found found mem).1 (of_decide_eq_true again)
        simp [none, begins]
      · simp only [begins, decide_false, Bool.false_eq_true, if_false, Nat.add_zero]
        exact ih (r.move m).1

/-- Where the banner is begun, it is not said that nothing was found. -/
theorem not_begins_notFound {r : Report} {moves : List Move} {last : Move}
    (goesOn : ∀ m ∈ moves, m.step.isFinish = false) (ends : last.step.isFinish = true)
    (banner : ∃ bytes ∈ r.additions (moves ++ [last]), Begins "Found!\n\n" bytes) :
    ∀ bytes ∈ r.additions (moves ++ [last]), ¬ Begins "Not found.\n" bytes := by
  induction moves generalizing r with
  | nil =>
      obtain ⟨bytes, mem, begins⟩ := banner
      rw [List.nil_append, additions, additions, List.mem_singleton] at mem
      subst mem
      have result := (result_of_begins_banner begins).2
      cases step : last.step <;> simp_all [Step.isResult, Step.isFinish]
  | cons m rest ih =>
      intro bytes mem told
      have ongoing := goesOn m List.mem_cons_self
      rcases List.mem_cons.mp mem with rfl | later
      · cases ongoing.symm.trans (finish_of_begins_notFound told).2
      · obtain ⟨bytes', mem', begins⟩ := banner
        rcases List.mem_cons.mp mem' with rfl | later'
        · exact (not_begins_of_found (found_move_of_begins begins) later).2 told
        · have others : ∀ m ∈ rest, m.step.isFinish = false :=
            fun m mem => goesOn m (List.mem_cons_of_mem _ mem)
          exact ih others ⟨bytes', later', begins⟩ bytes later told

/-- A report in which nothing has been written yet. -/
def opened (sink : Sink) (separator : String) : Report := ⟨sink, separator, false⟩

/-- Whatever the sink does, a report writes fronts of what it is meant to write. In a report of any
steps up to its end, each made under its own limit, each step adds the longest front of its text
that fits, and fails exactly if this is not the whole text or, at the end, if the bytes are not
passed on. The text of a result has the banner in front exactly if no result was attempted before,
and at the end it is said that nothing was found exactly if none was attempted at all. So the banner
is begun at most once, and never together with the words that nothing was found. -/
theorem moves_write_longest_fronts (sink : Sink) (separator : String) (moves : List Move)
    (last : Move) (goesOn : ∀ m ∈ moves, m.step.isFinish = false)
    (ends : last.step.isFinish = true) :
    (∀ earlier m,
      ((opened sink separator).after (earlier ++ [m])).sink.bytes =
        ((opened sink separator).after earlier).sink.bytes ++
          ((opened sink separator).after earlier).added m ∧
      LongestFitting m.limit ((opened sink separator).after earlier).sink.bytes
        (utf8 (m.step.text separator (attempted earlier)))
        (((opened sink separator).after earlier).added m) ∧
      ((((opened sink separator).after earlier).move m).2 = .error .writeFailure ↔
        ((opened sink separator).after earlier).added m ≠
            utf8 (m.step.text separator (attempted earlier)) ∨
          m.step.isFinish = true ∧ m.failsToFlush = true)) ∧
    ((opened sink separator).after (moves ++ [last])).sink.bytes =
      sink.bytes ++ ((opened sink separator).additions (moves ++ [last])).flatten ∧
    ((opened sink separator).additions (moves ++ [last])).countP
      (fun bytes => Begins "Found!\n\n" bytes) ≤ 1 ∧
    ((∃ bytes ∈ (opened sink separator).additions (moves ++ [last]), Begins "Found!\n\n" bytes) →
      ∀ bytes ∈ (opened sink separator).additions (moves ++ [last]),
        ¬ Begins "Not found.\n" bytes) := by
  refine ⟨?_, bytes_after _ _, countP_begins_banner_le _ _, not_begins_notFound goesOn ends⟩
  intro earlier m
  have text : ((opened sink separator).after earlier).moveText m =
      m.step.text separator (attempted earlier) := by
    rw [moveText, separator_after, found_after]
    rfl
  rw [← text]
  refine ⟨?_, longestFitting_added _ m, move_eq_error_iff _ m⟩
  rw [after_concat, bytes_move, added_eq]

/-- A result, written while the sink takes the given number of bytes. -/
def oddResult (limit : Option Nat) : Move := ⟨.result ⟨Node.ofKind "Odd", .empty⟩, limit, false⟩

/-- The end of a report to a sink that takes no more and passes nothing on. -/
def deadEnd : Move := ⟨.finish, some 0, true⟩

/-- The banner is cut inside its first word. When the sink has recovered, the second result follows
without a banner, and the end fails although it has nothing to write. -/
theorem moves_write_longest_fronts_of_odd :
    ((opened {} ".").after [oddResult (some 3)]).sink.bytes = utf8 "Fou" ∧
    ((opened {} ".").move (oddResult (some 3))).2 = .error .writeFailure ∧
    ((opened {} ".").after [oddResult (some 3), oddResult none]).sink.bytes =
      utf8 "Fou" ++ utf8 (entryText "." ⟨Node.ofKind "Odd", .empty⟩) ∧
    (((opened {} ".").after [oddResult (some 3), oddResult none]).move deadEnd).2 =
      .error .writeFailure ∧
    ((opened {} ".").additions [oddResult (some 3), oddResult none, deadEnd]).countP
      (fun bytes => Begins "Found!\n\n" bytes) ≤ 1 := by
  have goesOn : ∀ m ∈ [oddResult (some 3), oddResult none], m.step.isFinish = false := by
    simp [oddResult, Step.isFinish]
  obtain ⟨steps, -, once, -⟩ := moves_write_longest_fronts {} "."
    [oddResult (some 3), oddResult none] deadEnd goesOn rfl
  obtain ⟨bytes, fits, fails⟩ := steps [] (oddResult (some 3))
  obtain ⟨bytes', fits', -⟩ := steps [oddResult (some 3)] (oddResult none)
  obtain ⟨-, -, failsLast⟩ := steps [oddResult (some 3), oddResult none] deadEnd
  have cut : ((opened {} ".").after []).added (oddResult (some 3)) = utf8 "Fou" := by
    have begins : utf8 "Fou" <+: utf8 ((oddResult (some 3)).step.text "." false) := by
      change utf8 "Fou" <+: utf8 ("Found!\n\n" ++ entryText "." _)
      rw [utf8_append]
      exact List.IsPrefix.trans (by decide) (List.prefix_append _ _)
    have atMost : (((opened {} ".").after []).added (oddResult (some 3))).length ≤ 3 := by
      rcases fits.within with nothing | within
      · rw [nothing]
        exact Nat.zero_le 3
      · exact (Nat.zero_add _).symm.trans_le (within 3 rfl)
    have atLeast := fits.longest _ begins (by rintro _ ⟨⟩; exact Nat.le_refl 3)
    exact (atLeast.eq_of_length_le atMost).symm
  have whole : ((opened {} ".").after [oddResult (some 3)]).added (oddResult none) =
      utf8 (entryText "." ⟨Node.ofKind "Odd", .empty⟩) := by
    have all := fits'.longest _ (List.prefix_refl _) (by rintro _ ⟨⟩)
    exact fits'.front.eq_of_length_le all.length_le
  rw [cut] at bytes
  rw [whole] at bytes'
  refine ⟨bytes, fails.mpr (.inl ?_), bytes'.trans (congrArg (· ++ _) bytes),
    failsLast.mpr (.inr ⟨rfl, rfl⟩), once⟩
  intro complete
  have lengths : 3 = 8 + (utf8 (entryText "." ⟨Node.ofKind "Odd", .empty⟩)).length := by
    calc 3 = (utf8 ("Found!\n\n" ++ entryText "." _)).length :=
          congrArg List.length (cut.symm.trans complete)
      _ = 8 + _ := by rw [utf8_append, List.length_append]; rfl
  omega

end Report

end TreeSearch
