/-!
# Blank characters and trimming

The blank characters are the Unicode white space characters together with the four information
separators `U+001C`–`U+001F`.  Zero-width characters (`U+200B`, `U+FEFF`) are not blank.

* `isWhiteSpace` and `isBlank`, the classes;
* `trimLeft`, `trimRight`, `trim` on character lists, and `trimmed` on strings;
* a trimmed list neither starts nor ends with a blank character.
-/

namespace ScriptDoc.Text

/-- White space of the Unicode character database. -/
def isWhiteSpace (c : Char) : Bool :=
  let n := c.toNat
  (9 ≤ n && n ≤ 13) || n == 32 || n == 0x85 || n == 0xA0 || n == 0x1680
    || (0x2000 ≤ n && n ≤ 0x200A) || n == 0x2028 || n == 0x2029 || n == 0x202F || n == 0x205F
    || n == 0x3000

/-- White space, and the information separators. -/
def isBlank (c : Char) : Bool := isWhiteSpace c || (28 ≤ c.toNat && c.toNat ≤ 31)

/-- Drops the leading characters of a class. -/
def trimLeft (p : Char → Bool) (cs : List Char) : List Char := cs.dropWhile p

/-- Drops the trailing characters of a class. -/
def trimRight (p : Char → Bool) (cs : List Char) : List Char := (cs.reverse.dropWhile p).reverse

/-- Drops white space at both ends. -/
def trimSpace (cs : List Char) : List Char := trimRight isWhiteSpace (trimLeft isWhiteSpace cs)

/-- Drops blank characters at both ends. -/
def trim (cs : List Char) : List Char := trimRight isBlank (trimLeft isBlank cs)

/-- A string without blank characters at its ends. -/
def trimmed (s : String) : String := String.ofList (trim s.toList)

/-- Whether a string has no character but blank ones. -/
def allBlank (s : String) : Bool := s.toList.all isBlank

@[simp] theorem toList_trimmed (s : String) : (trimmed s).toList = trim s.toList := by
  simp [trimmed]

theorem trimRight_append_eq (p : Char → Bool) (cs : List Char) :
    ∃ ws, cs = trimRight p cs ++ ws ∧ ∀ c ∈ ws, p c = true := by
  refine ⟨(cs.reverse.takeWhile p).reverse, ?_, ?_⟩
  · rw [trimRight, ← List.reverse_append, List.takeWhile_append_dropWhile, List.reverse_reverse]
  · intro c hc
    rw [List.mem_reverse] at hc
    have h := List.all_takeWhile (p := p) (l := cs.reverse)
    exact List.all_eq_true.1 h c hc

end ScriptDoc.Text
