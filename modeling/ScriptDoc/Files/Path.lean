import ScriptDoc.Text.Lowercase

/-!
# Paths

A path is a root, which is empty for relative paths, and a list of parts.  Empty parts and `.` are
dropped on reading, `..` is kept: what it means depends on the files.
-/

namespace ScriptDoc

/-- A path of a file or directory. -/
structure Path where
  root : String := ""
  parts : List String := []
  deriving DecidableEq, Repr

namespace Path

/-- The root of a path text: two slashes are a root of their own, three are one. -/
def rootOf (cs : List Char) : String :=
  match cs with
  | '/' :: '/' :: '/' :: _ => "/"
  | '/' :: '/' :: _ => "//"
  | '/' :: _ => "/"
  | _ => ""

/-- Reads a path. -/
def ofString (s : String) : Path :=
  let parts := (s.toList.splitOn '/').map String.ofList
  ⟨rootOf s.toList, parts.filter fun p => p != "" && p != "."⟩

/-- Whether a path starts at the root of all files. -/
def isAbsolute (p : Path) : Bool := p.root != ""

/-- The text of a path; the empty path is `.`. -/
def text (p : Path) : String :=
  if p.root == "" && p.parts.isEmpty then "." else p.root ++ "/".intercalate p.parts

/-- A path from another one on. -/
def join (base p : Path) : Path :=
  if p.isAbsolute then p else ⟨base.root, base.parts ++ p.parts⟩

/-- A path with one more part. -/
def child (base : Path) (name : String) : Path := ⟨base.root, base.parts ++ [name]⟩

/-- A path with more parts. -/
def below (base : Path) (names : List String) : Path := ⟨base.root, base.parts ++ names⟩

/-- The path without its last part. -/
def parent (p : Path) : Path := ⟨p.root, p.parts.dropLast⟩

/-- The last part. -/
def name (p : Path) : String := p.parts.getLastD ""

/-- What a name holds from its last dot on, unless the dot is its first or its last character. -/
def suffixOf (name : String) : String :=
  let cs := name.toList
  let after := (cs.reverse.takeWhile (· != '.')).reverse
  let stem := cs.length - after.length - 1
  if after.length < cs.length && 0 < stem && !after.isEmpty then String.ofList ('.' :: after)
  else ""

/-- The suffix of the last part. -/
def suffix (p : Path) : String := suffixOf p.name

/-- The order of parts, as lists of strings in code point order. -/
def le (p q : Path) : Bool :=
  let key (x : Path) : List String := if x.root == "" then x.parts else x.root :: x.parts
  decide (¬ key q < key p)

end Path

end ScriptDoc
