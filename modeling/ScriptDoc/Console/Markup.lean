import ScriptDoc.Console.Style

/-!
# Markup

A text in a box may hold tags: words in square brackets that start with a lower-case letter, `#`, `@` or
`/`.  A tag opens a style, and with `/` it closes the style of that name, or the last one if it has no
name.  Tags are not printed.  A backslash before a tag makes it ordinary text.

`Markup.plain` gives the text that is printed; a tag that closes what is not open has no such text.
-/

namespace ScriptDoc.Console.Markup

open ScriptDoc.Text

/-- Why a text has no printed form. -/
inductive Error where
  /-- A closing tag names a style that is not open. -/
  | notOpen (name : String)
  /-- A closing tag has nothing to close. -/
  | nothingOpen
  /-- The action that a tag starts has arguments that are no constants. -/
  | badArguments (action : String)
  deriving DecidableEq, Repr

/-- A style that is open, perhaps with a value after an equals sign. -/
structure OpenTag where
  name : String
  value : Option String := none
  deriving DecidableEq, Repr

/-- A piece of a text. -/
inductive Piece where
  | text (cs : List Char)
  | opening (tag : OpenTag)
  /-- A tag that closes a style by its name, or the last one. -/
  | closing (name : Option String)
  deriving DecidableEq, Repr

/-- The characters that a tag may start with. -/
def startsTag (c : Char) : Bool := ('a' ≤ c && c ≤ 'z') || c == '#' || c == '/' || c == '@'

/-- The words of a tag, of which `cs` follows the opening bracket, and what follows the tag. -/
def tagAt? (cs : List Char) : Option (List Char × List Char) :=
  let isInner (c : Char) : Bool := c != '[' && c != ']'
  if (cs.head?.any startsTag) then
    match cs.dropWhile isInner with
    | ']' :: rest => some (cs.takeWhile isInner, rest)
    | _ => none
  else none

/-- The piece of a tag. -/
def tagPiece (body : List Char) : Piece :=
  let name := body.takeWhile (· != '=')
  let value := if body.contains '=' then some (String.ofList (body.drop (name.length + 1))) else none
  match name with
  | '/' :: rest =>
    let named := trim rest
    .closing (if named.isEmpty then none else some (Style.name named))
  | _ => .opening ⟨Style.name name, value⟩

/-- A bracket after backslashes that starts no tag; the last backslash is dropped. -/
def bracketText (backslashes : List Char) : Piece := .text (backslashes.drop 1 ++ ['['])

/-- The pieces of a text of at most `fuel` characters. Of the backslashes before a tag each pair stands for
one, and an odd one for the tag's text. -/
def pieces : Nat → List Char → List Piece
  | 0, _ => []
  | _ + 1, [] => []
  | fuel + 1, c :: cs =>
    let backslashes := (c :: cs).takeWhile (· == '\\')
    match (c :: cs).drop backslashes.length with
    | [] => [.text backslashes]
    | '[' :: rest =>
      match tagAt? rest with
      | none => bracketText backslashes :: pieces fuel rest
      | some (body, after) =>
        let tag := if backslashes.length % 2 == 1 then .text ('[' :: body ++ [']']) else tagPiece body
        .text (backslashes.take (backslashes.length / 2)) :: tag :: pieces fuel after
    | d :: rest => .text (backslashes ++ [d]) :: pieces fuel rest

/-- Whether a text is a constant: a number or a quoted text. -/
def isConstant (cs : List Char) : Bool :=
  let quoted (q : Char) : Bool :=
    cs.length ≥ 2 && cs.head? == some q && cs.getLast? == some q && !(cs.drop 1).dropLast.contains q
  quoted '\'' || quoted '"' || (!cs.isEmpty && cs.all isAsciiDigit && (cs == ['0'] || cs.head? != some '0'))

/-- Whether a text lists constants with commas between them; there may be one after the last. -/
def listsConstants (cs : List Char) : Bool :=
  let parts := (cs.splitOn ',').map trim
  let parts := if parts.getLast? == some [] then parts.dropLast else parts
  parts.all isConstant

/-- Whether the value of an action is sound: a dotted name, perhaps with constants in round brackets, or a
constant. -/
def isSoundAction (value : String) : Bool :=
  let cs := trim value.toList
  match cs.dropWhile fun c => isWordChar c || c == '.' with
  | [] => true
  | '(' :: rest => rest.getLast? == some ')' && listsConstants rest.dropLast
  | _ => isConstant cs

/-- Closes a tag. An action must be sound. -/
def closeTag (tag : OpenTag) : Except Error Unit :=
  match tag.value with
  | some value =>
    if "@".toList.isPrefixOf tag.name.toList && !value.isEmpty && !isSoundAction value then
      .error (.badArguments value)
    else .ok ()
  | none => .ok ()

/-- The open tags, the last one first, after a tag closes one of them. -/
def closeNamed (name : Option String) (tags : List OpenTag) : Except Error (List OpenTag) :=
  match name, tags with
  | none, [] => .error .nothingOpen
  | none, tag :: rest => (closeTag tag).map fun _ => rest
  | some n, _ =>
    match tags.find? (·.name == n) with
    | some tag => (closeTag tag).map fun _ => tags.eraseP (·.name == n)
    | none => .error (.notOpen n)

/-- The characters that no terminal gets. -/
def isDropped (c : Char) : Bool := [7, 8, 11, 12, 13].contains c.toNat

/-- The printed text of pieces after which some tags are open. -/
def plainPieces (tags : List OpenTag) : List Piece → Except Error (List Char)
  | [] => .ok []
  | .text cs :: rest => (plainPieces tags rest).map (cs ++ ·)
  | .opening tag :: rest => plainPieces (tag :: tags) rest
  | .closing name :: rest => (closeNamed name tags).bind fun tags => plainPieces tags rest

/-- The printed text of a text with markup. -/
def plain (text : String) : Except Error String :=
  let cs := text.toList
  (plainPieces [] (pieces cs.length cs)).map fun cs => String.ofList (cs.filter (!isDropped ·))

end ScriptDoc.Console.Markup
