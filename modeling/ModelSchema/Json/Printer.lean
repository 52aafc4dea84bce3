import ModelSchema.Number.Shortest
import ModelSchema.Text.Quoted
import ModelSchema.Value

/-!
Values as JSON text.

* `JsonLayout`: the spaces of a text and the characters that are escaped.
* `Value.toJson?`: the JSON text of a value made of nothing but JSON data.
-/

namespace ModelSchema

/-- Doubles in JSON: positional from `10 ^ -5` to below `10 ^ 16`. -/
def NumberFormat.json : NumberFormat := ⟨(-5, 15), 1, false, "Infinity", "-Infinity", "NaN"⟩

/-- How a JSON text is laid out. -/
structure JsonLayout where
  itemSeparator : String
  keySeparator : String
  asciiOnly : Bool
  deriving DecidableEq, Repr, Inhabited

namespace JsonLayout

/-- Without spaces, and with all characters as they are. -/
def minified : JsonLayout := ⟨",", ":", false⟩

/-- With spaces behind commas and colons, in ASCII. -/
def spaced : JsonLayout := ⟨", ", ": ", true⟩

end JsonLayout

namespace JsonText

/-- The escape of a code unit. -/
def unitEscape (unit : Nat) : List Char := ['\\', 'u'] ++ hexPadded 4 unit

/-- The escape of a character by its one or two UTF-16 units. -/
def charEscape (c : Char) : List Char :=
  let code := codeOfChar c
  if code < 0x10000 then unitEscape code
  else
    let rest := code - 0x10000
    unitEscape (0xd800 + rest / 0x400) ++ unitEscape (0xdc00 + rest % 0x400)

/-- One character of a text. -/
def charText (asciiOnly : Bool) (c : Char) : List Char :=
  if c = '"' || c = '\\' then ['\\', c]
  else if c = '\n' then ['\\', 'n']
  else if c = '\r' then ['\\', 'r']
  else if c = '\t' then ['\\', 't']
  else if c = '\u0008' then ['\\', 'b']
  else if c = '\u000c' then ['\\', 'f']
  else if c.toNat < 0x20 || (asciiOnly && 0x7f ≤ c.toNat) then charEscape c
  else [c]

/-- A text between double quotes. -/
def quotedText (asciiOnly : Bool) (text : String) : String :=
  String.ofList ('"' :: text.toList.flatMap (charText asciiOnly) ++ ['"'])

end JsonText

namespace Value

mutual

/-- The JSON text of a value, unless a part of it is no JSON data. -/
def toJson? (layout : JsonLayout) : Value → Option String
  | .null => some "null"
  | .bool b => some (if b then "true" else "false")
  | .int n => some s!"{n}"
  | .float x => some (NumberFormat.json.render x)
  | .str s => some (JsonText.quotedText layout.asciiOnly s)
  | .collection .list items => do
    some ("[" ++ layout.itemSeparator.intercalate (← jsonItems? layout items) ++ "]")
  | .dict entries => do
    some ("\x7b" ++ layout.itemSeparator.intercalate (← jsonEntries? layout entries) ++ "\x7d")
  | .member _ .str _ value | .member _ .int _ value | .member _ .float _ value =>
    value.toJson? layout
  | _ => none

def jsonItems? (layout : JsonLayout) : List Value → Option (List String)
  | [] => some []
  | value :: rest => do
    let text ← value.toJson? layout
    let texts ← jsonItems? layout rest
    some (text :: texts)

def jsonEntries? (layout : JsonLayout) : List (Value × Value) → Option (List String)
  | [] => some []
  | (key, value) :: rest => do
    let name ← key.text?
    let text ← value.toJson? layout
    let texts ← jsonEntries? layout rest
    some ((JsonText.quotedText layout.asciiOnly name ++ layout.keySeparator ++ text) :: texts)

end

end Value

end ModelSchema
