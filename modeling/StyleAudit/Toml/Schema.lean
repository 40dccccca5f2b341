import StyleAudit.Text.Quoted
import StyleAudit.Toml.Value

/-!
# Schemas of sections

A section of a configuration is a record.  A schema lists its fields in order and tells how each
is read from a value.  A section may be written in two ways: as a table, whose keys are read in
the order of the document, or as a list, whose items are taken for the fields in order.  The
first value that does not fit is reported.
-/

namespace StyleAudit.Toml

/-- Why a value does not fit. -/
inductive Mismatch where
  /-- A value of another kind was expected. -/
  | kind (found expected : String)
  /-- A value in another range was expected. -/
  | range (found expected : String)
  /-- A list ends before a field that must be given. -/
  | length (n : Nat) (expected : String)
  /-- A field that does not exist. -/
  | unknownField (name : String) (fields : List String)

/-- The message of a mismatch. -/
def Mismatch.message : Mismatch → String
  | .kind found expected => "invalid type: " ++ found ++ ", expected " ++ expected
  | .range found expected => "invalid value: " ++ found ++ ", expected " ++ expected
  | .length n expected => "invalid length " ++ toString n ++ ", expected " ++ expected
  | .unknownField name fields =>
    "unknown field `" ++ name ++ "`, expected one of " ++
      String.intercalate ", " (fields.map fun f => "`" ++ f ++ "`")

/-- A value as messages show it.  Lists and tables are shown by their kind; a date is a table of
one entry. -/
def Value.describe : Value → String
  | .str s => "string " ++ Text.quoted s
  | .int n => "integer `" ++ toString n ++ "`"
  | .float f => "floating point `" ++ f.render ++ "`"
  | .bool b => "boolean `" ++ toString b ++ "`"
  | .date _ => "map"
  | .array _ => "sequence"
  | .table _ _ => "map"
  | .tables _ => "sequence"

/-! ### Single values -/

/-- A text; `expected` names what it stands for. -/
def Value.asText (expected : String) : Value → Except Mismatch String
  | .str s => .ok s
  | v => .error (.kind v.describe expected)

/-- A truth value. -/
def Value.asBool : Value → Except Mismatch Bool
  | .bool b => .ok b
  | v => .error (.kind v.describe "a boolean")

/-- A natural number up to a greatest one; `expected` names the range. -/
def Value.asNat (greatest : Nat) (expected : String) : Value → Except Mismatch Nat
  | .int n =>
    if 0 ≤ n && n ≤ greatest then .ok n.toNat
    else .error (.range (Value.int n).describe expected)
  | v => .error (.kind v.describe expected)

/-- The items of a list, written as such or as repeated tables. -/
def Value.items? : Value → Option (List Value)
  | .array items => some items
  | .tables items => some items
  | _ => none

/-- A list of texts. -/
def Value.asTexts (v : Value) : Except Mismatch (List String) :=
  match v.items? with
  | some items => items.mapM (asText "a string")
  | none => .error (.kind v.describe "a sequence")

/-! ### Sections -/

/-- A field of a record. -/
structure Field (σ : Type) where
  /-- Its key. -/
  key : String
  /-- Whether a section that is written as a list must reach it. -/
  needed : Bool := false
  /-- Reads a value into the record. -/
  read : Value → σ → Except Mismatch σ

/-- The fields of a record, in order. -/
structure Schema (σ : Type) where
  /-- The name of the record in messages. -/
  name : String
  /-- Its fields. -/
  fields : List (Field σ)

namespace Schema

variable {σ : Type}

/-- The key of the single entry that a date consists of. -/
def dateKey : String := "$__toml_private_datetime"

/-- Reads the value of a key. -/
def readKey (schema : Schema σ) (s : σ) (key : String) (v : Value) : Except Mismatch σ :=
  match schema.fields.find? (·.key == key) with
  | some f => f.read v s
  | none => .error (.unknownField key (schema.fields.map (·.key)))

/-- Reads the entries of a table in order. -/
def readEntries (schema : Schema σ) (s : σ) (es : Entries) : Except Mismatch σ :=
  es.foldlM (fun s e => schema.readKey s e.1 e.2) s

/-- What a list must hold. -/
def asList (schema : Schema σ) : String :=
  "struct " ++ schema.name ++ " with " ++ toString schema.fields.length ++ " elements"

/-- Reads the items of a list into the fields from the one with the given index on. -/
def readItems (schema : Schema σ) (index : Nat) (s : σ) :
    List (Field σ) → List Value → Except Mismatch σ
  | [], _ => .ok s
  | f :: fs, [] =>
    if f.needed then .error (.length index schema.asList) else schema.readItems (index + 1) s fs []
  | f :: fs, v :: vs =>
    match f.read v s with
    | .ok s => schema.readItems (index + 1) s fs vs
    | .error m => .error m

/-- Reads a section over its defaults. -/
def read (schema : Schema σ) (defaults : σ) : Value → Except Mismatch σ
  | .table _ es => schema.readEntries defaults es
  | .array items => schema.readItems 0 defaults schema.fields items
  | .tables items => schema.readItems 0 defaults schema.fields items
  | .date text => schema.readKey defaults dateKey (.str text)
  | v => .error (.kind v.describe ("struct " ++ schema.name))

end Schema

end StyleAudit.Toml
