import ScriptDoc.Data.Value

/-!
# Writing JSON

`Json.render` writes a value in one line, or with each item and member on a line of its own.
A `Style` says how far to indent and whether characters outside ASCII are escaped.
-/

namespace ScriptDoc.Json

/-- How a value is laid out: without `indent` on one line, else `indent` blanks per level. With
`ascii`, all characters but the printable ones of ASCII are escaped. -/
structure Style where
  indent : Option Nat := some 2
  ascii : Bool := false
  deriving DecidableEq, Repr

/-- Four lower-case hexadecimal digits. -/
def hexQuad (n : Nat) : List Char :=
  [n / 4096 % 16, n / 256 % 16, n / 16 % 16, n % 16].map Nat.digitChar

/-- The escape of a code unit. -/
def unitEscape (n : Nat) : List Char := '\\' :: 'u' :: hexQuad n

/-- A character as it stands in a string. Beyond the Basic Multilingual Plane the escape is a
surrogate pair. -/
def charText (ascii : Bool) (c : Char) : List Char :=
  let n := c.toNat
  if c == '"' then ['\\', '"']
  else if c == '\\' then ['\\', '\\']
  else if c == '\n' then ['\\', 'n']
  else if c == '\r' then ['\\', 'r']
  else if c == '\t' then ['\\', 't']
  else if n == 8 then ['\\', 'b']
  else if n == 12 then ['\\', 'f']
  else if n < 0x20 then unitEscape n
  else if ascii && 0x7E < n then
    if n < 0x10000 then unitEscape n
    else unitEscape (0xD800 + (n - 0x10000) / 1024) ++ unitEscape (0xDC00 + (n - 0x10000) % 1024)
  else [c]

/-- A string with its quotes. -/
def stringText (ascii : Bool) (s : String) : List Char :=
  '"' :: s.toList.flatMap (charText ascii) ++ ['"']

/-- A number that need not be an integer. -/
def realText : Binary64 → String
  | .nan => "NaN"
  | .infinite negative => if negative then "-Infinity" else "Infinity"
  | x => x.text

/-- A scalar. Those that JSON does not know are written as strings. -/
def scalarText (ascii : Bool) : Scalar → List Char
  | .null => "null".toList
  | .bool b => (if b then "true" else "false").toList
  | .int n => (toString n).toList
  | .real x => (realText x).toList
  | .text s => stringText ascii s
  | .bytes b => stringText ascii (String.ofList (b.map fun u => Char.ofNat u.toNat))
  | .date d => stringText ascii d.text
  | .moment m => stringText ascii m.text

/-- A key, which is always a string. -/
def keyText (ascii : Bool) : Scalar → List Char
  | .text s => stringText ascii s
  | .null => stringText ascii "null"
  | .bool b => stringText ascii (if b then "true" else "false")
  | .int n => stringText ascii (toString n)
  | .real x => stringText ascii (realText x)
  | .date d => stringText ascii d.text
  | .moment m => stringText ascii m.text
  | .bytes b => scalarText ascii (.bytes b)

/-- What stands before the first part of a list or object at a level. -/
def lead (style : Style) (level : Nat) : List Char :=
  match style.indent with
  | none => []
  | some n => '\n' :: List.replicate (n * level) ' '

/-- What stands between two parts of a list or object at a level. -/
def separator (style : Style) (level : Nat) : List Char :=
  match style.indent with
  | none => [',', ' ']
  | some n => ',' :: '\n' :: List.replicate (n * level) ' '

/-- The parts of a list or object between its brackets, `level` being that of the parts. -/
def enclosed (style : Style) (level : Nat) (opening closing : Char) (parts : List (List Char)) :
    List Char :=
  if parts.isEmpty then [opening, closing]
  else
    opening :: lead style level ++ List.intercalate (separator style level) parts
      ++ lead style (level - 1) ++ [closing]

mutual

/-- A value that stands at a level. -/
def renderAt (style : Style) (level : Nat) : Value → List Char
  | .scalar s => scalarText style.ascii s
  | .list items => enclosed style (level + 1) '[' ']' (renderItems style (level + 1) items)
  | .map entries =>
    enclosed style (level + 1) '\x7b' '\x7d' (renderEntries style (level + 1) entries)
  | .set members => enclosed style (level + 1) '[' ']' (members.map (scalarText style.ascii))

/-- The items of a list. -/
def renderItems (style : Style) (level : Nat) : List Value → List (List Char)
  | [] => []
  | v :: rest => renderAt style level v :: renderItems style level rest

/-- The members of an object. -/
def renderEntries (style : Style) (level : Nat) : List (Scalar × Value) → List (List Char)
  | [] => []
  | (k, v) :: rest =>
    (keyText style.ascii k ++ [':', ' '] ++ renderAt style level v)
      :: renderEntries style level rest

end

/-- The text of a value. -/
def render (style : Style) (v : Value) : String := String.ofList (renderAt style 0 v)

end ScriptDoc.Json
