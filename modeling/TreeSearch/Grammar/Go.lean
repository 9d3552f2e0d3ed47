import TreeSearch.Grammar.Basic

/-!
# The grammar of Go syntax trees

The kinds of nodes of a Go syntax tree. A kind is named like its Go type without the package, and
its nodes have the pointer type in paths. Slots of the types `Expr`, `Stmt`, `Decl` and `Spec` are
polymorphic. The order of slots is the order in which Go's own traversal visits them.
-/

namespace TreeSearch.Grammar

namespace Go

/-- A kind with the given slots. -/
def kind (name : String) (slots : List SlotDescriptor) : KindDescriptor :=
  ⟨name, "*ast." ++ name, slots⟩

/-- A slot with a node of one type. -/
def required (name : String) : SlotDescriptor := ⟨name, .required, false⟩

/-- A slot with a node of several types. -/
def requiredAny (name : String) : SlotDescriptor := ⟨name, .required, true⟩

/-- A slot with a node of one type or nothing. -/
def optional (name : String) : SlotDescriptor := ⟨name, .optional, false⟩

/-- A slot with a node of several types or nothing. -/
def optionalAny (name : String) : SlotDescriptor := ⟨name, .optional, true⟩

/-- A slot with a list of nodes of one type. -/
def list (name : String) : SlotDescriptor := ⟨name, .list, false⟩

/-- A slot with a list of nodes of several types. -/
def listAny (name : String) : SlotDescriptor := ⟨name, .list, true⟩

/-- A slot with nodes of one type by key. -/
def keyed (name : String) : SlotDescriptor := ⟨name, .keyed, false⟩

/-- Every kind of node: comments, fields, expressions, types, statements, specifications and
declarations, files and packages. -/
def kinds : List KindDescriptor :=
  [kind "Comment" [],
   kind "CommentGroup" [list "List"],
   kind "Field"
      [optional "Doc", list "Names", requiredAny "Type", optional "Tag", optional "Comment"],
   kind "FieldList" [list "List"],
   kind "BadExpr" [],
   kind "Ident" [],
   kind "BasicLit" [],
   kind "Ellipsis" [optionalAny "Elt"],
   kind "FuncLit" [required "Type", required "Body"],
   kind "CompositeLit" [optionalAny "Type", listAny "Elts"],
   kind "ParenExpr" [requiredAny "X"],
   kind "SelectorExpr" [requiredAny "X", required "Sel"],
   kind "IndexExpr" [requiredAny "X", requiredAny "Index"],
   kind "IndexListExpr" [requiredAny "X", listAny "Indices"],
   kind "SliceExpr" [requiredAny "X", optionalAny "Low", optionalAny "High", optionalAny "Max"],
   kind "TypeAssertExpr" [requiredAny "X", optionalAny "Type"],
   kind "CallExpr" [requiredAny "Fun", listAny "Args"],
   kind "StarExpr" [requiredAny "X"],
   kind "UnaryExpr" [requiredAny "X"],
   kind "BinaryExpr" [requiredAny "X", requiredAny "Y"],
   kind "KeyValueExpr" [requiredAny "Key", requiredAny "Value"],
   kind "ArrayType" [optionalAny "Len", requiredAny "Elt"],
   kind "StructType" [required "Fields"],
   kind "FuncType" [optional "TypeParams", optional "Params", optional "Results"],
   kind "InterfaceType" [required "Methods"],
   kind "MapType" [requiredAny "Key", requiredAny "Value"],
   kind "ChanType" [requiredAny "Value"],
   kind "BadStmt" [],
   kind "DeclStmt" [requiredAny "Decl"],
   kind "EmptyStmt" [],
   kind "LabeledStmt" [required "Label", requiredAny "Stmt"],
   kind "ExprStmt" [requiredAny "X"],
   kind "SendStmt" [requiredAny "Chan", requiredAny "Value"],
   kind "IncDecStmt" [requiredAny "X"],
   kind "AssignStmt" [listAny "Lhs", listAny "Rhs"],
   kind "GoStmt" [required "Call"],
   kind "DeferStmt" [required "Call"],
   kind "ReturnStmt" [listAny "Results"],
   kind "BranchStmt" [optional "Label"],
   kind "BlockStmt" [listAny "List"],
   kind "IfStmt" [optionalAny "Init", requiredAny "Cond", required "Body", optionalAny "Else"],
   kind "CaseClause" [listAny "List", listAny "Body"],
   kind "SwitchStmt" [optionalAny "Init", optionalAny "Tag", required "Body"],
   kind "TypeSwitchStmt" [optionalAny "Init", requiredAny "Assign", required "Body"],
   kind "CommClause" [optionalAny "Comm", listAny "Body"],
   kind "SelectStmt" [required "Body"],
   kind "ForStmt" [optionalAny "Init", optionalAny "Cond", optionalAny "Post", required "Body"],
   kind "RangeStmt" [optionalAny "Key", optionalAny "Value", requiredAny "X", required "Body"],
   kind "ImportSpec" [optional "Doc", optional "Name", required "Path", optional "Comment"],
   kind "ValueSpec"
      [optional "Doc", list "Names", optionalAny "Type", listAny "Values", optional "Comment"],
   kind "TypeSpec"
      [optional "Doc", required "Name", optional "TypeParams",
       requiredAny "Type", optional "Comment"],
   kind "BadDecl" [],
   kind "GenDecl" [optional "Doc", listAny "Specs"],
   kind "FuncDecl"
      [optional "Doc", optional "Recv", required "Name", required "Type", optional "Body"],
   kind "File" [optional "Doc", required "Name", listAny "Decls"],
   kind "Package" [keyed "Files"]]

end Go

/-- The grammar of Go syntax trees. -/
def go : Grammar :=
  have unambiguous := (fault?_eq_none_iff [] Go.kinds).mp (by decide +kernel)
  ⟨Go.kinds, unambiguous.1, unambiguous.2.2⟩

end TreeSearch.Grammar
