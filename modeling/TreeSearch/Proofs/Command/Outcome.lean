import TreeSearch.Command.Run
import TreeSearch.Proofs.Query.Search
import TreeSearch.Proofs.Report.Writing
import TreeSearch.Proofs.Walk.Composition

/-!
# The outcome of the command

The command comes to its outcome in a fixed order: the pattern, the file, the walk and the report.
Each stage is described by what the stages before it have come to (`run_of_query_error`,
`run_of_load_error`, `run_of_tree`, `run_of_search_error`, `run_of_search_ok`). Nothing is written
before the walk has ended, so a failure leaves the output as it was, however much of the tree the
query selects before the walk fails.
-/

namespace TreeSearch.Command

/-- The pattern of the request, if there is one, can be compiled. -/
def Request.Compiles (request : Request) : Prop :=
  ∀ text, request.selection = some (.pattern text) → ∃ p, Pattern.compile text = .ok p

/-- What the request selects by, with its pattern compiled. -/
inductive Request.Asks (request : Request) : Query → Prop
  | path {text : String} (selection : request.selection = some (.path text)) :
      Asks request (.exact text)
  | pattern {text : String} {p : Pattern} (selection : request.selection = some (.pattern text))
      (compiles : Pattern.compile text = .ok p) : Asks request (.pattern p)
  | kind {name : String} (selection : request.selection = some (.kind name)) :
      Asks request (.kind name)

/-- With an output that takes everything, the command succeeds and writes the text. -/
def Prints (request : Request) (file : File) (text : String) : Prop :=
  run request file {} = ⟨{ written := text.toUTF8 }, .ok ()⟩

/-- With an output that takes everything, the command fails and writes nothing. -/
def FailsWith (request : Request) (file : File) (failure : Failure) : Prop :=
  run request file {} = ⟨{}, .error failure⟩

section Stages

variable {request : Request} {file : File} {sink : Sink}

theorem query_of_bad {text : String} {fault : Pattern.Fault}
    (selection : request.selection = some (.pattern text))
    (bad : Pattern.compile text = .error fault) :
    request.query = .error (.pattern (.invalidPattern text)) := by
  simp [Request.query, selection, Selection.query, Query.ofPattern, bad, Except.map,
    Except.mapError]

theorem query_of_none (selection : request.selection = none) : request.query = .ok none := by
  simp [Request.query, selection]

theorem query_of_asks {query : Query} (asks : request.Asks query) :
    request.query = .ok (some query) := by
  cases asks with
  | path selection => simp [Request.query, selection, Selection.query, Except.map, Except.mapError]
  | pattern selection compiles =>
      simp [Request.query, selection, Selection.query, Query.ofPattern, compiles, Except.map,
        Except.mapError]
  | kind selection => simp [Request.query, selection, Selection.query, Except.map, Except.mapError]

/-- A request whose pattern compiles has a query, or none is asked for. -/
theorem exists_query (compiles : request.Compiles) : ∃ query, request.query = .ok query := by
  cases selection : request.selection with
  | none => exact ⟨_, query_of_none selection⟩
  | some selected =>
      cases selected with
      | path text => exact ⟨_, query_of_asks (.path selection)⟩
      | pattern text =>
          obtain ⟨p, ok⟩ := compiles text selection
          exact ⟨_, query_of_asks (.pattern selection ok)⟩
      | kind name => exact ⟨_, query_of_asks (.kind selection)⟩

theorem run_of_query_error {failure : Failure} (query : request.query = .error failure) :
    run request file sink = ⟨sink, .error failure⟩ := by
  simp only [run, query]

theorem run_of_load_error {query : Option Query} (asked : request.query = .ok query)
    {cause : LoadError} (load : file.load = .error cause) :
    run request file sink = ⟨sink, .error (.load request.file cause)⟩ := by
  simp only [run, asked, load]

theorem run_of_tree (asked : request.query = .ok none) {root : Node} (load : file.load = .ok root) :
    run request file sink = .ofReport (Report.tree ⟨sink, request.separator, false⟩ root) := by
  simp only [run, asked, load]

theorem run_of_search_error {query : Query} (asked : request.query = .ok (some query))
    {root : Node} (load : file.load = .ok root) {e : WalkError}
    (search : Walker.find ⟨Grammar.go, 4096⟩ query root = .error e) :
    run request file sink = ⟨sink, .error (.walk e)⟩ := by
  simp only [run, asked, load, search]

theorem run_of_search_ok {query : Query} (asked : request.query = .ok (some query))
    {root : Node} (load : file.load = .ok root) {found : List (Match Node)}
    (search : Walker.find ⟨Grammar.go, 4096⟩ query root = .ok found) :
    run request file sink =
      .ofReport (reportResults ⟨sink, request.separator, false⟩ found) := by
  simp only [run, asked, load, search]

end Stages

section Written

variable {sink : Sink} (unlimited : sink.limit = none) (flushes : sink.failsToFlush = false)
  (separator : String)

include unlimited flushes

theorem reportResults_nil :
    reportResults ⟨sink, separator, false⟩ [] =
      (⟨sink.append "Not found.\n", separator, false⟩, .ok ()) := by
  simp only [reportResults, Report.results]
  rw [Report.finish_of_unlimited unlimited separator flushes]
  rfl

theorem reportResults_cons (m : Match Node) (rest : List (Match Node)) :
    reportResults ⟨sink, separator, false⟩ (m :: rest) =
      (⟨sink.append ("Found!\n\n" ++ String.join ((m :: rest).map (Report.entryText separator))),
        separator, true⟩, .ok ()) := by
  have further : (sink.append ("Found!\n\n" ++ Report.entryText separator m)).limit = none :=
    unlimited
  have results : (⟨sink, separator, false⟩ : Report).results (m :: rest) =
      (⟨sink.append ("Found!\n\n" ++ String.join ((m :: rest).map (Report.entryText separator))),
        separator, true⟩, .ok ()) := by
    rw [Report.results, Report.result_of_unlimited unlimited]
    simp only [Bool.false_eq_true, if_false]
    rw [Report.results_of_unlimited further, Sink.append_append]
    simp [String.append_assoc]
  rw [reportResults, results]
  refine (Report.finish_of_unlimited ?_ separator ?_ true).trans ?_
  · exact unlimited
  · exact flushes
  · simp [Sink.append_empty]

end Written

theorem ofReport_append (text separator : String) (found : Bool) :
    Outcome.ofReport (⟨Sink.append {} text, separator, found⟩, .ok ()) =
      ⟨{ written := text.toUTF8 }, .ok ()⟩ := by
  simp [Outcome.ofReport, Sink.append, Except.mapError]

section Search

variable {request : Request} {file : File} {root : Node}

theorem prints_tree (selection : request.selection = none) (load : file.load = .ok root) :
    Prints request file (root.pretty ++ "\n") := by
  rw [Prints, run_of_tree (query_of_none selection) load, Report.tree,
    Report.writeLines_of_unlimited rfl, ofReport_append]
  simp [linesText]

variable {query : Query} (asks : request.Asks query) (load : file.load = .ok root)

include asks load

theorem failsWith_of_search_error {e : WalkError}
    (search : Walker.find ⟨Grammar.go, 4096⟩ query root = .error e) :
    FailsWith request file (.walk e) :=
  run_of_search_error (query_of_asks asks) load search

/-- What was found is reported in its order. -/
theorem prints_found {found : List (Match Node)}
    (search : Walker.find ⟨Grammar.go, 4096⟩ query root = .ok found) :
    Prints request file
      (if found = [] then "Not found.\n"
        else "Found!\n\n" ++ String.join (found.map (Report.entryText request.separator))) := by
  rw [Prints, run_of_search_ok (query_of_asks asks) load search]
  cases found with
  | nil => rw [reportResults_nil rfl rfl, ofReport_append, if_pos rfl]
  | cons m rest =>
      rw [reportResults_cons rfl rfl, ofReport_append, if_neg (List.cons_ne_nil m rest)]

variable {σ : Type} {v : Visitor σ Node} (descends : ∀ s n p, (v.enter s n p).2 = .descend) (s : σ)

include descends

/-- With a query, the command fails by the walk exactly as the walk of the whole tree does. -/
theorem failsWith_walk_iff (e : WalkError) :
    FailsWith request file (.walk e) ↔
      ((⟨Grammar.go, 4096⟩ : Walker).walk v s root).result = .error e := by
  have search := Walker.find_eq ⟨Grammar.go, 4096⟩ descends s query root
  cases ends : ((⟨Grammar.go, 4096⟩ : Walker).walk v s root).result with
  | error e' =>
      rw [ends] at search
      have fails := failsWith_of_search_error asks load search
      constructor
      · intro fails'
        cases fails.symm.trans fails'
        rfl
      · rintro ⟨⟩
        exact fails
  | ok _ =>
      rw [ends] at search
      have prints := prints_found asks load search
      constructor
      · intro fails
        have results := congrArg Outcome.result (prints.symm.trans fails)
        cases results
      · rintro ⟨⟩

/-- With a query, the command reports the visits that the query selects if the walk is without
fault. -/
theorem prints_selected (ok : ((⟨Grammar.go, 4096⟩ : Walker).walk v s root).result = .ok ()) :
    Prints request file
      (if query.select Grammar.go (entered ((⟨Grammar.go, 4096⟩ : Walker).log v s root).2) = []
        then "Not found.\n"
        else "Found!\n\n" ++ String.join
          ((query.select Grammar.go (entered ((⟨Grammar.go, 4096⟩ : Walker).log v s root).2)).map
            (Report.entryText request.separator))) := by
  have search := Walker.find_eq ⟨Grammar.go, 4096⟩ descends s query root
  rw [ok] at search
  exact prints_found asks load search

end Search

/-- The outcome of the command is decided in a fixed order, and failures write nothing. A pattern
that does not compile counts first, whatever the file is, then a file that cannot be opened or does
not load. Without a selection the tree is written, also if it does not fit the grammar. Otherwise
the command fails exactly as the walk of the whole tree by the Go grammar does, and if the walk is
without fault, it reports the visits that the query selects, in their order. -/
theorem outcome_decided_in_order {σ : Type} (v : Visitor σ Node)
    (descends : ∀ s n p, (v.enter s n p).2 = .descend) (s : σ) (request : Request) (file : File) :
    (∀ text fault, request.selection = some (.pattern text) →
      Pattern.compile text = .error fault →
      FailsWith request file (.pattern (.invalidPattern text))) ∧
    (request.Compiles →
      (∀ cause, file = .unopened cause →
        FailsWith request file (.load request.file (.unreadable cause))) ∧
      ∀ bytes failure, file = .opened bytes failure →
        (∀ cause, Node.load (.stream bytes failure) = .error cause →
          FailsWith request file (.load request.file cause)) ∧
        ∀ root, Node.load (.stream bytes failure) = .ok root →
          (request.selection = none → Prints request file (root.pretty ++ "\n")) ∧
          ∀ query, request.Asks query →
            (∀ e, FailsWith request file (.walk e) ↔
              ((⟨Grammar.go, 4096⟩ : Walker).walk v s root).result = .error e) ∧
            (((⟨Grammar.go, 4096⟩ : Walker).walk v s root).result = .ok () →
              ((∀ e ∈ entered ((⟨Grammar.go, 4096⟩ : Walker).log v s root).2,
                  query.selects Grammar.go e.1 e.2 = false) →
                Prints request file "Not found.\n") ∧
              ((∃ e ∈ entered ((⟨Grammar.go, 4096⟩ : Walker).log v s root).2,
                  query.selects Grammar.go e.1 e.2 = true) →
                Prints request file ("Found!\n\n" ++ String.join
                  (((entered ((⟨Grammar.go, 4096⟩ : Walker).log v s root).2).filter
                    fun e => query.selects Grammar.go e.1 e.2).map
                      fun e => Report.entryText request.separator ⟨e.1, e.2⟩))))) := by
  refine ⟨fun text fault selection bad => run_of_query_error (query_of_bad selection bad), ?_⟩
  intro compiles
  obtain ⟨asked, query⟩ := exists_query compiles
  refine ⟨?_, ?_⟩
  · rintro cause rfl
    exact run_of_load_error query rfl
  · rintro bytes failure rfl
    refine ⟨fun cause load => run_of_load_error query load, ?_⟩
    intro root load
    refine ⟨fun selection => prints_tree selection load, ?_⟩
    intro query asks
    have loaded : (File.opened bytes failure).load = .ok root := load
    refine ⟨failsWith_walk_iff asks loaded descends s, fun ok => ?_⟩
    have prints := prints_selected asks loaded descends s ok
    constructor
    · intro nothing
      have empty : query.select Grammar.go
          (entered ((⟨Grammar.go, 4096⟩ : Walker).log v s root).2) = [] := by
        simpa [Query.select] using nothing
      rwa [if_pos empty] at prints
    · rintro ⟨e, visited, selected⟩
      have nonempty : query.select Grammar.go
          (entered ((⟨Grammar.go, 4096⟩ : Walker).log v s root).2) ≠ [] := by
        simp only [Query.select, ne_eq, List.map_eq_nil_iff, List.filter_eq_nil_iff]
        exact fun none => none e visited selected
      rw [if_neg nonempty, Query.select, List.map_map] at prints
      exact prints

/-- A file that can be read to the end of the text. -/
def fileOf (text : String) : File := .opened text.toUTF8 none

/-- The text of two parentheses around an expression. -/
def parenText : String :=
  String.join ["\x7b\"kind\":\"ParenExpr\",\"X\":\x7b\"kind\":\"ParenExpr\",",
    "\"X\":\x7b\"kind\":\"BadExpr\"\x7d\x7d\x7d"]

/-- The text of parentheses around a pointer without a base. -/
def brokenText : String := "\x7b\"kind\":\"ParenExpr\",\"X\":\x7b\"kind\":\"StarExpr\"\x7d\x7d"

/-- A bad pattern counts before a missing file. A tree of an unknown kind is written if there is no
selection. The parentheses around a pointer without a base are selected, but the walk fails below
them. In a tree without faults the innermost expression is found, and no functions are. -/
theorem outcome_decided_in_order_of_files :
    FailsWith ⟨some (.pattern "*"), ".", "a.json"⟩ (.unopened "no file")
      (.pattern (.invalidPattern "*")) ∧
    FailsWith ⟨some (.kind "File"), ".", "a.json"⟩ (.unopened "no file")
      (.load "a.json" (.unreadable "no file")) ∧
    FailsWith ⟨none, ".", "a.json"⟩ (fileOf "[]") (.load "a.json" .notAnObject) ∧
    Prints ⟨none, ".", "a.json"⟩ (fileOf "\x7b\"kind\":\"Odd\"\x7d")
      ((Node.ofKind "Odd").pretty ++ "\n") ∧
    FailsWith ⟨some (.kind "ParenExpr"), ".", "a.json"⟩ (fileOf brokenText)
      (.walk (.missingSlot "StarExpr" "X" (.ofSegments [.field "X", .kind "*ast.StarExpr"]))) ∧
    Prints ⟨some (.kind "BadExpr"), "/", "a.json"⟩ (fileOf parenText)
      ("Found!\n\nCOMMAND: \n    X/(*ast.ParenExpr)/X\nAST_PRINT: \n" ++
        "\x7b\n  \"kind\": \"BadExpr\"\n\x7d\n\n") ∧
    Prints ⟨some (.kind "FuncDecl"), "/", "a.json"⟩ (fileOf parenText) "Not found.\n" := by
  have order := outcome_decided_in_order .descending (fun _ _ _ => rfl) ()
  have bad : Pattern.compile "*" = .error .nothingToRepeat := rfl
  have kinds : ∀ name separator, Request.Compiles ⟨some (.kind name), separator, "a.json"⟩ := by
    rintro name separator text ⟨⟩
  have plain : Request.Compiles ⟨none, ".", "a.json"⟩ := by rintro text ⟨⟩
  have array : Node.load (.stream "[]".toUTF8 none) = .error .notAnObject := rfl
  have odd : Node.load (.stream "\x7b\"kind\":\"Odd\"\x7d".toUTF8 none) = .ok (.ofKind "Odd") :=
    rfl
  have broken : Node.load (.stream brokenText.toUTF8 none) = .ok brokenParen := rfl
  have paren : Node.load (.stream parenText.toUTF8 none) = .ok outerParen := rfl
  have fails : ((⟨Grammar.go, 4096⟩ : Walker).walk .descending () brokenParen).result =
      .error (.missingSlot "StarExpr" "X" (.ofSegments [.field "X", .kind "*ast.StarExpr"])) := by
    cbv
  have ok : ((⟨Grammar.go, 4096⟩ : Walker).walk .descending () outerParen).result = .ok () := by
    cbv
  have visits : entered ((⟨Grammar.go, 4096⟩ : Walker).log .descending () outerParen).2 =
      [(outerParen, .empty), (innerParen, .ofSegments [.field "X"]),
        (Node.ofKind "BadExpr", .ofSegments [.field "X", .kind "*ast.ParenExpr", .field "X"])] := by
    cbv
  have searches := fun name =>
    ((((order ⟨some (.kind name), "/", "a.json"⟩ (fileOf parenText)).2 (kinds name "/")).2 _ _
      rfl).2 _ paren).2 _ (.kind rfl)
  refine ⟨(order _ _).1 _ _ rfl bad, ((order _ _).2 (kinds _ _)).1 _ rfl,
    (((order _ _).2 plain).2 _ _ rfl).1 _ array,
    ((((order _ _).2 plain).2 _ _ rfl).2 _ odd).1 rfl, ?_, ?_, ?_⟩
  · exact (((((order _ _).2 (kinds _ _)).2 _ _ rfl).2 _ broken).2 _ (.kind rfl)).1 _ |>.mpr fails
  · have visit : (Node.ofKind "BadExpr", Path.ofSegments [.field "X", .kind "*ast.ParenExpr",
        .field "X"]) ∈ entered ((⟨Grammar.go, 4096⟩ : Walker).log .descending () outerParen).2 := by
      rw [visits]
      simp
    have found := ((searches "BadExpr").2 ok).2 ⟨_, visit, rfl⟩
    rw [visits] at found
    exact found
  · refine ((searches "FuncDecl").2 ok).1 ?_
    rw [visits]
    decide

end TreeSearch.Command
