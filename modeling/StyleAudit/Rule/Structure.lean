import StyleAudit.Rule.Session

/-!
# Structure

Rules on the structure of a source: repeated blocks of lines, the number of functions, and
functions that occur in several places.
-/

namespace StyleAudit.Rule

/-- Numbers in a list, as messages show them. -/
def numbers (ns : List Nat) : String := ", ".intercalate (ns.map toString)

/-! ### Repetition -/

/-- A block of consecutive lines: the number of the first line and all texts. -/
structure Block where
  /-- The number of the first line. -/
  start : Nat
  /-- The texts of the lines. -/
  texts : List (List Char)

/-- The blocks of `length` lines, one for each line that starts one. -/
def blocks (length : Nat) : List Line → List Block
  | [] => []
  | l :: rest =>
    let block := (l :: rest).take length
    if block.length < length then [] else ⟨l.number, block.map (·.text)⟩ :: blocks length rest

/-- A line that counts in a block: more than one character between its blank edges. -/
def isSubstantial (t : List Char) : Bool := 1 < (Text.trim t).length

/-- The blocks that consist of substantial lines. -/
def substantialBlocks (length : Nat) (d : Document) : List Block :=
  (blocks length d.lines).filter (·.texts.all isSubstantial)

/-- Distinct texts of blocks in the order of their first occurrence, each with every line that
starts one. -/
def occurrences : List Block → List (List (List Char) × List Nat)
  | [] => []
  | b :: rest =>
    let later := occurrences rest
    (b.texts, b.start :: (later.lookup b.texts).getD []) :: later.filter (·.1 != b.texts)

/-- The text of a block in a message. -/
def blockText (texts : List (List Char)) : String :=
  String.ofList (Text.trim (['\n'].intercalate texts))

/-- Reports blocks that occur often. -/
def repetition (t : Thresholds) (d : Document) : List Diagnostic :=
  ((occurrences (substantialBlocks t.sequenceLength d)).filter fun o =>
    t.repetitionThreshold ≤ o.2.length).map fun o =>
      .of .repetition (o.2.headD 0)
        ("Repetition detected: Sequence '" ++ blockText o.1 ++ "' repeated " ++
          toString o.2.length ++ " times. Consider refactoring as a function. Lines: " ++
          numbers o.2)

/-! ### Number of functions -/

/-- A line that defines a subroutine in Perl. -/
def definesSubroutine (t : List Char) : Bool :=
  match "sub".toList.isPrefixOf (Text.trimStart t), (Text.trimStart t).drop 3 with
  | true, c :: _ => Text.isBlank c
  | _, _ => false

/-- The lines that define a subroutine. -/
def subroutineLines (d : Document) : List Nat :=
  (d.lines.filter fun l => definesSubroutine l.text).map (·.number)

/-- The lines that open a function body. -/
def openingLines (d : Document) (events : List LineEvent) : List Nat :=
  ((d.lines.zip events).filter fun (_, e) => e == .functionOpened).map (·.1.number)

/-- Reports a number of functions outside the bounds; `openings` are the lines that open one. -/
def functionCount (t : Thresholds) (openings : List Nat) : List Diagnostic :=
  if openings.length < t.minFunctions then
    [.of .functionCount 1
      ("Modularization issue: the file should have at least " ++ toString t.minFunctions ++
        " function(s), found " ++ toString openings.length ++ ".")]
  else match openings.drop t.maxFunctions with
    | [] => []
    | line :: _ =>
      [.of .functionCount line
        ("Modularization issue: the file has " ++ toString openings.length ++
          " functions, more than the recommended maximum of " ++ toString t.maxFunctions ++ ".")]

/-! ### Reuse -/

/-- Functions that the lines define, each name once, with the line of its first definition. -/
def definitions (seen : List (List Char)) : List Line → List (List Char × Nat)
  | [] => []
  | l :: rest =>
    match Declaration.functionName? l.text with
    | some name =>
      if seen.contains name then definitions seen rest
      else (name, l.number) :: definitions (name :: seen) rest
    | none => definitions seen rest

/-- The lines on which a name occurs. -/
def linesWith (name : List Char) (d : Document) : List Nat :=
  (d.lines.filter fun l => Text.occursIn name l.text).map (·.number)

/-- Reports functions whose name occurs on several lines. -/
def codeReuse (d : Document) : List Diagnostic :=
  ((definitions [] d.lines).filter fun f => 1 < (linesWith f.1 d).length).map fun f =>
    .of .codeReuse f.2
      ("Function '" ++ String.ofList f.1 ++
        "' called multiple times. Consider refactoring for code reuse. Call locations: " ++
        numbers (linesWith f.1 d))

end StyleAudit.Rule
