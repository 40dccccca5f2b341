import StyleAudit.Toml.Lexeme

/-!
# Documents of TOML

A text is read into statements, and the statements are assembled into a table.  Assembling fails
where a key is given twice or a table is extended that may not be: tables between braces and
lists are complete, a table has at most one header, and dotted keys extend only tables that
dotted keys have made.
-/

namespace StyleAudit.Toml

/-! ### Assembling tables -/

/-- Puts a value under a key, at the end if the key is new. -/
def Entries.put (es : Entries) (key : String) (v : Value) : Entries :=
  if es.any (·.1 == key) then es.map fun e => if e.1 == key then (key, v) else e
  else es ++ [(key, v)]

/-- Changes the table that a path leads to.  Tables that are missing on the way come about by
`origin`; `f` gets the origin of the table and its entries. -/
def updateAt (origin : Origin) (f : Origin → Entries → Option Entries) :
    List String → Origin → Entries → Option Entries
  | [], own, es => f own es
  | key :: path, _, es =>
    match es.lookup key with
    | none => (updateAt origin f path origin []).map fun t => es.put key (.table origin t)
    | some (.table o t) =>
      if o == .inline || (origin == .dotted && o == .header) then none
      else (updateAt origin f path o t).map fun t => es.put key (.table o t)
    | some (.tables items) =>
      match items.getLast? with
      | some (.table o t) =>
        (updateAt origin f path o t).map fun t =>
          es.put key (.tables (items.dropLast ++ [.table o t]))
      | _ => none
    | some _ => none

/-- Adds a key that must be new. -/
def addNew (key : String) (v : Value) (es : Entries) : Option Entries :=
  if es.any (·.1 == key) then none else some (es ++ [(key, v)])

/-- A key and its value in a table.  A path of dotted keys must end in a table that dotted keys
have made. -/
def assign (path : List String) (key : String) (v : Value) (own : Origin) (es : Entries) :
    Option Entries :=
  if path.isEmpty then addNew key v es
  else updateAt .dotted (fun o es => if o == .dotted then addNew key v es else none) path own es

/-- Assembles the entries of a table between braces. -/
def inlineTable (pairs : List ((List String × String) × Value)) : Option Value :=
  (pairs.foldlM (fun es p => assign p.1.1 p.1.2 p.2 .inline es) []).map (.table .inline ·)

/-- A document under construction: its table, and the path to the table that keys go to. -/
structure Builder where
  /-- The whole table. -/
  root : Entries := []
  /-- The path to the current table. -/
  current : List String := []

/-- Opens a table by its header.  A table that other headers have implied moves to the end. -/
def openTable (key : String) (es : Entries) : Option Entries :=
  match es.lookup key with
  | none => some (es ++ [(key, .table .header [])])
  | some (.table .implied t) => some (es.filter (·.1 != key) ++ [(key, .table .header t)])
  | some _ => none

/-- Opens one of several tables by its header. -/
def openItem (key : String) (es : Entries) : Option Entries :=
  match es.lookup key with
  | none => some (es ++ [(key, .tables [.table .header []])])
  | some (.tables items) => some (es.put key (.tables (items ++ [.table .header []])))
  | some _ => none

/-- Carries out a statement. -/
def Builder.step (b : Builder) : Statement → Option Builder
  | .assign path key v =>
    (updateAt .implied (fun o es => assign path key v o es) b.current .header b.root).map fun r =>
      { b with root := r }
  | .header path key =>
    (updateAt .implied (fun _ es => openTable key es) path .header b.root).map fun r =>
      ⟨r, path ++ [key]⟩
  | .arrayHeader path key =>
    (updateAt .implied (fun _ es => openItem key es) path .header b.root).map fun r =>
      ⟨r, path ++ [key]⟩

/-- Assembles the table of a document. -/
def assemble (statements : List Statement) : Option Entries :=
  (statements.foldlM Builder.step {}).map (·.root)

/-! ### Reading values -/

/-- Lists and tables between braces are nested at most so deep. -/
def maxNesting : Nat := maxKeys

mutual

/-- A value, in which lists and tables between braces are nested at most `room` deep. -/
def readValue (fuel room : Nat) : Reader Value := fun t =>
  match fuel with
  | 0 => none
  | fuel + 1 =>
    match t with
    | [] => none
    | c :: rest =>
      if c == '"' || c == '\'' then (readString t).map fun r => (.str r.1, r.2)
      else if c == '[' then if room == 0 then none else readItems fuel (room - 1) [] rest
      else if c == '\x7b' then if room == 0 then none else readPairs fuel (room - 1) [] rest
      else if ['t', 'r', 'u', 'e'].isPrefixOf t then some (.bool true, t.drop 4)
      else if ['f', 'a', 'l', 's', 'e'].isPrefixOf t then some (.bool false, t.drop 5)
      else if looksLikeDay t || looksLikeTime t then readDate t
      else readNumber t

/-- The items of a list, up to its end. -/
def readItems (fuel room : Nat) (seen : List Value) : Reader Value := fun t =>
  match fuel with
  | 0 => none
  | fuel + 1 =>
    let t := skipGap t.length t
    match t with
    | ']' :: rest => some (.array seen.reverse, rest)
    | t =>
      match readValue fuel room t with
      | none => none
      | some (v, rest) =>
        match skipGap rest.length rest with
        | ',' :: rest => readItems fuel room (v :: seen) rest
        | ']' :: rest => some (.array (v :: seen).reverse, rest)
        | _ => none

/-- The keys and values of a table between braces, up to its end. -/
def readPairs (fuel room : Nat) (seen : List ((List String × String) × Value)) : Reader Value :=
  fun t =>
  match fuel with
  | 0 => none
  | fuel + 1 =>
    match skipBlanks t with
    | '\x7d' :: rest =>
      if seen.isEmpty then (inlineTable []).map (·, rest) else none
    | t =>
      match readDottedKey t with
      | none => none
      | some (key, rest) =>
        match skipBlanks rest with
        | '=' :: rest =>
          match readValue fuel room (skipBlanks rest) with
          | none => none
          | some (v, rest) =>
            match skipBlanks rest with
            | ',' :: rest => readPairs fuel room ((key, v) :: seen) rest
            | '\x7d' :: rest => (inlineTable ((key, v) :: seen).reverse).map (·, rest)
            | _ => none
        | _ => none

end

/-! ### Reading documents -/

/-- The end of a line, with a comment before it; the end of the text counts. -/
def readLineEnd (t : List Char) : Option (List Char) :=
  match skipComment (skipBlanks t) with
  | [] => some []
  | t => readBreak t

/-- A statement. -/
def readStatement : Reader Statement := fun t =>
  match t with
  | '[' :: '[' :: rest =>
    match readDottedKey rest with
    | some ((path, key), rest) =>
      match rest with
      | ']' :: ']' :: rest => some (.arrayHeader path key, rest)
      | _ => none
    | none => none
  | '[' :: rest =>
    match readDottedKey rest with
    | some ((path, key), rest) =>
      match rest with
      | ']' :: rest => some (.header path key, rest)
      | _ => none
    | none => none
  | t =>
    match readDottedKey t with
    | some ((path, key), rest) =>
      match rest with
      | '=' :: rest =>
        (readValue rest.length maxNesting (skipBlanks rest)).map fun r =>
          (.assign path key r.1, r.2)
      | _ => none
    | none => none

/-- The statements of a text, one on a line. -/
def readStatements (fuel : Nat) (seen : List Statement) (t : List Char) :
    Option (List Statement) :=
  match fuel with
  | 0 => none
  | fuel + 1 =>
    let t := skipBlanks t
    match readLineEnd t with
    | some [] => some seen.reverse
    | some rest => readStatements fuel seen rest
    | none =>
      match readStatement t with
      | none => none
      | some (s, rest) =>
        match readLineEnd rest with
        | some [] => some (s :: seen).reverse
        | some rest => readStatements fuel (s :: seen) rest
        | none => none

/-- Skips a mark of the byte order. -/
def skipMark (t : List Char) : List Char :=
  match t with
  | c :: rest => if c.toNat == 0xFEFF then rest else t
  | [] => []

/-- Reads a document. -/
def parse? (t : List Char) : Option Entries :=
  let t := skipMark t
  (readStatements (t.length + 1) [] t).bind assemble

end StyleAudit.Toml
