import ScriptDoc.Data.Value
import ScriptDoc.Schema.Problem
import ScriptDoc.Text.Blank
import ScriptDoc.Text.Utf8
import ScriptDoc.Text.Word

/-!
# Checking values

A check turns a value into a typed one or finds problems with it.  Checks of several parts are
combined so that the problems of all parts are found, in the order of the parts (`Checked.both`
underlies the `<*>` of the `Applicative` instance).

* `Check.text`, `Check.flag`, `Check.natural`: scalars, with the lenient readings of numbers and
  words that settings allow;
* `Check.list`, `Check.record`: lists and objects;
* `required`, `optional`: a field of an object under one of several names, the first name that is
  present being the one that counts.
-/

namespace ScriptDoc

open ScriptDoc.Text

/-- A checked value: good, or with a list of problems. -/
inductive Checked (α : Type) where
  | good (value : α)
  | bad (problems : List Problem)

namespace Checked

/-- Applies a function to a good value. -/
def map {α β : Type} (f : α → β) : Checked α → Checked β
  | .good a => .good (f a)
  | .bad ps => .bad ps

/-- Combines two checked parts; the problems of both are kept. -/
def both {α β γ : Type} (f : α → β → γ) : Checked α → Checked β → Checked γ
  | .good a, .good b => .good (f a b)
  | .good _, .bad qs => .bad qs
  | .bad ps, .good _ => .bad ps
  | .bad ps, .bad qs => .bad (ps ++ qs)

instance : Applicative Checked where
  pure := .good
  seq f x := both (fun g a => g a) f (x ())

/-- The problems of a part, seen from the whole. -/
def within {α : Type} (step : Step) : Checked α → Checked α
  | .good a => .good a
  | .bad ps => .bad (ps.map fun p => { p with path := step :: p.path })

/-- A single problem at the value itself. -/
def fail {α : Type} (kind : ProblemKind) : Checked α := .bad [⟨[], kind⟩]

/-- The value, or the problems. -/
def toExcept {α : Type} : Checked α → Except (List Problem) α
  | .good a => .ok a
  | .bad ps => .error ps

end Checked

/-- A check of values. -/
abbrev Check (α : Type) := Value → Checked α

namespace Check

/-- A text. Bytes count as the text that they encode. -/
def text : Check String
  | .scalar (.text s) => .good s
  | .scalar (.bytes b) =>
    match Utf8.decode b with
    | .ok cs => .good (String.ofList cs)
    | .error _ => .fail .undecodableText
  | _ => .fail .notText

/-- A text that may be null. -/
def text? : Check (Option String)
  | .scalar .null => .good none
  | v => (text v).map some

/-- A text of at least one character. -/
def someText (v : Value) : Checked String :=
  match text v with
  | .good s => if s.isEmpty then .fail .emptyText else .good s
  | .bad ps => .bad ps

/-- The words for true and false, in lower case. -/
def flagWords : List (String × Bool) :=
  [("0", false), ("1", true), ("f", false), ("t", true), ("n", false), ("y", true), ("no", false),
    ("yes", true), ("off", false), ("on", true), ("false", false), ("true", true)]

/-- The truth value that a word stands for, in any letter case. -/
def flagWord (cs : List Char) : Checked Bool :=
  match flagWords.lookup (String.ofList (cs.map Char.toLower)) with
  | some b => .good b
  | none => .fail .unreadableBool

/-- Drops zeros at the front, and low lines among them. What is left starts with another digit or, if there
is none, with the last character before a point or the end. -/
def dropZeros (cs : List Char) : List Char :=
  let zeros := cs.takeWhile fun c => c == '0' || c == '_'
  match cs.drop zeros.length with
  | [] => zeros.drop (zeros.length - 1)
  | c :: rest => if c == '.' then zeros.drop (zeros.length - 1) ++ c :: rest else c :: rest

/-- Drops a point with zeros after it at the end. -/
def dropFraction (cs : List Char) : List Char :=
  match cs.dropWhile (· != '.') with
  | _ :: z :: zeros => if (z :: zeros).all (· == '0') then cs.takeWhile (· != '.') else cs
  | _ => cs

/-- Drops low lines, if each of them stands alone between other characters. -/
def dropLowLines (cs : List Char) : List Char :=
  if cs.head? == some '_' || cs.getLast? == some '_'
      || (cs.zip (cs.drop 1)).any (· == ('_', '_')) then cs
  else cs.filter (· != '_')

/-- The most digits that an integer in a text may have. -/
def maxIntegerDigits : Nat := 4300

/-- The value of digits. -/
def digits (cs : List Char) : Checked Nat :=
  if (cs.takeWhile isAsciiDigit).length > maxIntegerDigits then .fail .oversizedInteger
  else if cs.isEmpty || !cs.all isAsciiDigit then .fail .unreadableInteger
  else .good (decimalValue cs)

/-- The digits of an integer without its sign; zeros at the front start them, but do not count. -/
def unsignedInteger (cs : List Char) : Checked Nat :=
  let rest := if cs.head? == some '0' then dropZeros cs else cs
  digits (dropLowLines (dropFraction rest))

/-- The integer that a text states: white space around it is dropped, then come a sign, digits with low
lines between them, and perhaps a point with zeros. -/
def statedInteger (cs : List Char) : Checked Int :=
  match trimSpace cs with
  | '-' :: r => (unsignedInteger r).map fun (n : Nat) => -(n : Int)
  | '+' :: r => (unsignedInteger r).map Int.ofNat
  | r => (unsignedInteger r).map Int.ofNat

/-- The integers that a floating-point number may stand for lie between these bounds. -/
def wordBound : Int := 9223372036854775808

/-- The integer that a floating-point number equals. -/
def integerOfReal (x : Binary64) : Checked Int :=
  match x with
  | .finite _ _ _ =>
    match x.toInt? with
    | some n => if -wordBound < n && n < wordBound then .good n else .fail .oversizedInteger
    | none => .fail .fraction
  | _ => .fail .notFinite

/-- The truth value that an integer stands for. -/
def flagOfInteger (n : Int) : Checked Bool :=
  if n == 0 then .good false else if n == 1 then .good true else .fail .unreadableBool

/-- A truth value, written as one, as the number zero or one, or as a word. Bytes count as the word
that they encode. A number that does not fit into a word of 64 bits is not taken for a truth value at
all. -/
def flag : Check Bool
  | .scalar (.bool b) => .good b
  | .scalar (.int n) => if -wordBound ≤ n && n < wordBound then flagOfInteger n else .fail .notBool
  | .scalar (.real x) =>
    match integerOfReal x with
    | .good n => flagOfInteger n
    | .bad _ => .fail .notBool
  | .scalar (.text s) => flagWord s.toList
  | .scalar (.bytes b) =>
    match Utf8.decode b with
    | .ok cs => flagWord cs
    | .error _ => .fail .unreadableBool
  | _ => .fail .notBool

/-- An integer, written as one, as a truth value, as a number without a fraction, or as a text. -/
def integer : Check Int
  | .scalar (.int n) => .good n
  | .scalar (.bool b) => .good (if b then 1 else 0)
  | .scalar (.real x) => integerOfReal x
  | .scalar (.text s) => statedInteger s.toList
  | .scalar (.bytes b) =>
    match Utf8.decode b with
    | .ok cs => statedInteger cs
    | .error _ => .fail .unreadableInteger
  | _ => .fail .notInteger

/-- An integer that is not negative. -/
def natural (v : Value) : Checked Nat :=
  match integer v with
  | .good n => if n < 0 then .fail .negative else .good n.toNat
  | .bad ps => .bad ps

/-- Checks the items of a list whose first item is at `index`. -/
def items {α : Type} (check : Check α) (index : Nat) : List Value → Checked (List α)
  | [] => .good []
  | v :: rest =>
    Checked.both List.cons ((check v).within (.item index)) (items check (index + 1) rest)

/-- A list whose items pass a check. A set counts as the list of its members in their order. -/
def list {α : Type} (check : Check α) : Check (List α)
  | .list vs => items check 0 vs
  | .set ms => items check 0 (ms.map Value.scalar)
  | _ => .fail .notList

/-- An object of the named kind, whose fields pass a check. -/
def record {α : Type} (model : String) (check : List (Scalar × Value) → Checked α) : Check α
  | .map entries => check entries
  | _ => .fail (.notObject model)

end Check

/-- The first of several names that an object has, and its value. -/
def firstPresent (names : List String) (entries : List (Scalar × Value)) :
    Option (String × Value) :=
  names.findSome? fun name => (Value.lookup (.text name) entries).map (name, ·)

/-- A field that must be present. -/
def required {α : Type} (names : List String) (check : Check α)
    (entries : List (Scalar × Value)) : Checked α :=
  match firstPresent names entries with
  | some (name, v) => (check v).within (.field name)
  | none => .bad [⟨[.field (names.headD "")], .missing⟩]

/-- A field that has a default. -/
def optional {α : Type} (names : List String) (default : α) (check : Check α)
    (entries : List (Scalar × Value)) : Checked α :=
  match firstPresent names entries with
  | some (name, v) => (check v).within (.field name)
  | none => .good default

end ScriptDoc
