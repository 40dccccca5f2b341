import StyleAudit.Rule.Session

/-!
# Names

Rules on the names of declared symbols.  They read the list of declarations and nothing else of
the document.
-/

namespace StyleAudit.Rule

open Text

/-- The name starts with a capital letter. -/
def startsWithCapital (name : List Char) : Bool := name.head?.any isCapital

/-- The name has a letter and no capital letter. -/
def isAllSmall (name : List Char) : Bool := name.any isLetter && !name.any isCapital

/-- The name has a letter and no small letter. -/
def isAllCapital (name : List Char) : Bool := name.any isLetter && !name.any isSmall

/-- Reports functions whose name starts with a capital letter. -/
def functionCase (found : List Declaration) : List Diagnostic :=
  (found.filter fun d => d.kind == .function && startsWithCapital d.name).map fun d =>
    .of .functionCase d.line
      ("Function " ++ String.ofList d.name ++ " does not start with a lowercase letter")

/-- What is wrong with the case of a variable name. -/
def variableProblem (name : List Char) : Option String :=
  if isAllSmall name then
    some ("Variable " ++ String.ofList name ++ " does not start with an uppercase letter")
  else if isAllCapital name then
    some ("Constant " ++ String.ofList name ++ " should not be all uppercase")
  else none

/-- Reports variables without capital letters or without small letters. -/
def variableCase (found : List Declaration) : List Diagnostic :=
  (found.filter (·.kind == .plain)).filterMap fun d =>
    (variableProblem d.name).map (.of .variableCase d.line ·)

/-- Reports pointers whose name does not start with `p_`. -/
def pointerName (found : List Declaration) : List Diagnostic :=
  (found.filter fun d => d.kind == .pointer && !(['p', '_'].isPrefixOf d.name)).map fun d =>
    .of .pointerName d.line
      ("Pointer variable " ++ String.ofList d.name ++ " should start with 'p_'")

/-- Reports types whose name does not start with a capital letter. -/
def typeCase (found : List Declaration) : List Diagnostic :=
  (found.filter fun d => d.kind == .record && !startsWithCapital d.name).map fun d =>
    .of .typeCase d.line
      ("Type/Class " ++ String.ofList d.name ++ " does not start with an uppercase letter")

/-! ### Modules -/

/-- The symbol establishes a module. -/
def establishesModule (d : Declaration) : Bool := "MODULE_".toList.isPrefixOf d.name

/-- The symbols at the top level from the first one that establishes a module on. -/
def fromModule (found : List Declaration) : List Declaration :=
  (found.filter (·.topLevel)).dropWhile fun d => !establishesModule d

/-- The module that the declarations establish. -/
def moduleOf (found : List Declaration) : Option (List Char) :=
  (fromModule found).head?.map (·.name)

/-- Reports symbols behind the one that establishes a module whose name does not start with the
name of the module. -/
def moduleName (found : List Declaration) : List Diagnostic :=
  match fromModule found with
  | [] => []
  | first :: rest =>
    (rest.filter fun d => !first.name.isPrefixOf d.name).map fun d =>
      .of .moduleName d.line
        ("Symbol " ++ String.ofList d.name ++ " should have a prefix '" ++
          String.ofList first.name ++ "'")

end StyleAudit.Rule
