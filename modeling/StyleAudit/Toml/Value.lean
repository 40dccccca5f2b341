import StyleAudit.Text.Binary64

/-!
# Values of TOML

A document of TOML is a table; tables keep the order in which their keys were first written.
How a table came about decides whether it may be extended later.
-/

namespace StyleAudit.Toml

/-- A floating-point number as written. -/
inductive Float where
  /-- A finite number: whether it is negative, and its digits. -/
  | finite (negative : Bool) (value : Binary64.Decimal)
  /-- Infinity. -/
  | infinite (negative : Bool)
  /-- No number. -/
  | nan

/-- How a table came about. -/
inductive Origin where
  /-- By a header of its own. -/
  | header
  /-- As a parent in a header of another table. -/
  | implied
  /-- By a dotted key. -/
  | dotted
  /-- Between braces. -/
  | inline
  deriving DecidableEq

/-- A value. -/
inductive Value where
  /-- A string. -/
  | str (s : String)
  /-- An integer. -/
  | int (n : Int)
  /-- A floating-point number. -/
  | float (f : Float)
  /-- A truth value. -/
  | bool (b : Bool)
  /-- A date or time, as written. -/
  | date (text : String)
  /-- A list. -/
  | array (items : List Value)
  /-- A table. -/
  | table (origin : Origin) (entries : List (String × Value))
  /-- Tables with one repeated header. -/
  | tables (items : List Value)

/-- The entries of a table, in order. -/
abbrev Entries := List (String × Value)

/-- The floating-point number as messages show it: the fewest digits that read back. -/
def Float.render : Float → String
  | .finite negative d =>
    if Binary64.overflows d then (if negative then "-inf" else "inf")
    else (if negative then "-" else "") ++ Binary64.render d
  | .infinite negative => if negative then "-inf" else "inf"
  | .nan => "NaN"

/-- A statement of a document. -/
inductive Statement where
  /-- A key, with the keys before its last dot, and its value. -/
  | assign (path : List String) (key : String) (value : Value)
  /-- The header of a table. -/
  | header (path : List String) (key : String)
  /-- The header of one of several tables. -/
  | arrayHeader (path : List String) (key : String)

end StyleAudit.Toml
