/-!
# Lines

* `splitLines` cuts a text at every line boundary (line feed, carriage return, the pair of both,
  and the eight further separators below) and drops the boundaries; a text that ends in a
  boundary has no empty last line;
* `unifyNewlines` turns `\r\n` and `\r` into `\n`, as reading a text file does;
* `chomp` drops the carriage returns and line feeds at the end of one line.
-/

namespace ScriptDoc.Text

/-- The characters that end a line. -/
def isLineBreak (c : Char) : Bool :=
  let n := c.toNat
  (10 ≤ n && n ≤ 13) || (28 ≤ n && n ≤ 30) || n == 0x85 || n == 0x2028 || n == 0x2029

/-- The lines of `cs`, where `line` holds the characters read of the first one, last first. -/
def splitLinesAfter (line : List Char) : List Char → List (List Char)
  | [] => if line.isEmpty then [] else [line.reverse]
  | '\r' :: '\n' :: cs => line.reverse :: splitLinesAfter [] cs
  | c :: cs =>
    if isLineBreak c then line.reverse :: splitLinesAfter [] cs
    else splitLinesAfter (c :: line) cs

/-- The lines of a text, without their ends. -/
def splitLines (s : String) : List String := (splitLinesAfter [] s.toList).map String.ofList

/-- Line feeds in place of carriage returns and of pairs of both. -/
def unifyNewlines : List Char → List Char
  | [] => []
  | '\r' :: '\n' :: cs => '\n' :: unifyNewlines cs
  | '\r' :: cs => '\n' :: unifyNewlines cs
  | c :: cs => c :: unifyNewlines cs

/-- Whether a character is a carriage return or a line feed. -/
def isNewline (c : Char) : Bool := c == '\r' || c == '\n'

/-- A line without the carriage returns and line feeds at its end. -/
def chomp (s : String) : String :=
  String.ofList (s.toList.reverse.dropWhile isNewline).reverse

/-- A text without carriage returns is read as it is. -/
theorem unifyNewlines_eq_self {cs : List Char} (h : '\r' ∉ cs) : unifyNewlines cs = cs := by
  fun_induction unifyNewlines cs with
  | case1 => rfl
  | case2 => simp at h
  | case3 => simp at h
  | case4 c cs _ _ ih => rw [ih (fun m => h (List.mem_cons_of_mem _ m))]

end ScriptDoc.Text
