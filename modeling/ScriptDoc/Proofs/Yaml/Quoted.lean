import ScriptDoc.Proofs.Json.Scalars
import ScriptDoc.Yaml.Scalar.Quoted

/-!
# Texts of JSON within the quotes of YAML

JSON escapes quotes, backslashes and control characters, and leaves all else as it is.  Within double
quotes YAML knows these escapes, but it folds lines: the separators of Unicode, which end a line, take
the blanks beside them away.

* `keepsLines`: a text of which nothing is folded away;
* `Written`: a text in its places, up to its closing quote;
* `Written.quotedPiece_eq`: a piece of it is a run of characters of one class;
* `Written.quotedScalar_eq`: the text is read back.
-/

namespace ScriptDoc.Yaml

open ScriptDoc.Text ScriptDoc.Json

/-! ### Texts that are not folded -/

/-- The characters that end a line and are not escaped. -/
def isLineSeparator (c : Char) : Bool := c == '\u2028' || c == '\u2029'

/-- Whether a text starts with the mark of a document's start or end, and a gap after it. -/
def startsWithMark (cs : List Char) : Bool :=
  (['-', '-', '-'].isPrefixOf cs || ['.', '.', '.'].isPrefixOf cs)
    && (cs.drop 3).head?.any fun c => c == ' ' || isLineSeparator c

/-- Whether no blank stands beside a separator of lines, and no mark of a document after one. -/
def keepsLines : List Char → Bool
  | [] => true
  | c :: cs =>
    !(c == ' ' && cs.head?.any isLineSeparator)
      && !(isLineSeparator c && (cs.head? == some ' ' || startsWithMark cs))
      && keepsLines cs

theorem keepsLines_tail {c : Char} {cs : List Char} (h : keepsLines (c :: cs) = true) :
    keepsLines cs = true := by
  rw [keepsLines, Bool.and_eq_true] at h
  exact h.2

theorem keepsLines_blank {cs : List Char} (h : keepsLines (' ' :: cs) = true) :
    cs.head?.any isLineSeparator = false := by
  simp only [keepsLines, Bool.and_eq_true, Bool.not_eq_true', beq_self_eq_true, Bool.true_and] at h
  exact h.1.1

theorem keepsLines_separator {c : Char} {cs : List Char} (hc : isLineSeparator c = true)
    (h : keepsLines (c :: cs) = true) : cs.head? ≠ some ' ' ∧ startsWithMark cs = false := by
  simp only [keepsLines, Bool.and_eq_true, Bool.not_eq_true', hc, Bool.true_and, Bool.or_eq_false_iff,
    beq_eq_false_iff_ne] at h
  exact h.1.2

/-! ### Characters in their places -/

theorem charText_false_of_raw {c : Char} (hquote : c ≠ '"') (hslash : c ≠ '\\') (hc : 0x20 ≤ c.toNat) :
    charText false c = [c] := by
  have hne {d : Char} (hd : d.toNat < 0x20) : c ≠ d := by
    rintro rfl
    omega
  simp only [charText, beq_eq_false_iff_ne.2 hquote, beq_eq_false_iff_ne.2 hslash,
    beq_eq_false_iff_ne.2 (hne (d := '\n') (by decide)), beq_eq_false_iff_ne.2 (hne (d := '\r') (by decide)),
    beq_eq_false_iff_ne.2 (hne (d := '\t') (by decide)), Bool.false_eq_true, if_false, beq_iff_eq,
    Bool.false_and]
  rw [if_neg (by omega), if_neg (by omega), if_neg (by omega)]

/-- What JSON writes for a character: an escape of one letter or of a code unit, or the character. -/
theorem charText_false_cases (c : Char) :
    (∃ x, charText false c = ['\\', x] ∧ Json.shortEscape? x = some c) ∨
    (charText false c = unitEscape c.toNat ∧ c.toNat < 0x20) ∨
    (charText false c = [c] ∧ c ≠ '"' ∧ c ≠ '\\' ∧ 0x20 ≤ c.toNat) := by
  by_cases hquote : c = '"'
  · subst hquote
    exact .inl ⟨'"', rfl, rfl⟩
  by_cases hslash : c = '\\'
  · subst hslash
    exact .inl ⟨'\\', rfl, rfl⟩
  by_cases hc : 0x20 ≤ c.toNat
  · exact .inr (.inr ⟨charText_false_of_raw hquote hslash hc, hquote, hslash, hc⟩)
  · rcases charText_cases false c with ⟨x, h, -, hx⟩ | ⟨h, -⟩ | ⟨-, hn⟩ | ⟨-, -, -, hn⟩
    · exact .inl ⟨x, h, hx⟩
    · exact .inr (.inl ⟨h, by omega⟩)
    · omega
    · omega

/-- The characters that escapes are made of. -/
def escapeChars : List Char := "\\\"/bfnrtu0123456789abcdef".toList

theorem eq_or_mem_escapeChars {c x : Char} (h : x ∈ charText false c) :
    (x = c ∧ 0x20 ≤ c.toNat) ∨ x ∈ escapeChars := by
  have hdigit : ∀ d < 16, Nat.digitChar d ∈ escapeChars := by decide
  rcases charText_false_cases c with ⟨y, heq, hy⟩ | ⟨heq, -⟩ | ⟨heq, -, -, hc⟩ <;> rw [heq] at h
  · refine .inr ?_
    rcases List.mem_cons.1 h with rfl | h
    · decide
    · rw [List.mem_singleton.1 h]
      revert hy
      unfold Json.shortEscape?
      split <;> first | (intro; decide) | (intro hy; cases hy)
  · refine .inr ?_
    simp only [unitEscape, hexQuad, List.map_cons, List.map_nil, List.mem_cons, List.not_mem_nil,
      or_false] at h
    rcases h with rfl | rfl | rfl | rfl | rfl | rfl
    · decide
    · decide
    all_goals exact hdigit _ (Nat.mod_lt _ (by decide))
  · exact .inl ⟨List.mem_singleton.1 h, hc⟩

/-- The separators are the line ends among the characters that are not escaped. -/
theorem isBreak_eq {c : Char} (hc : 0x20 ≤ c.toNat) : isBreak c = isLineSeparator c := by
  have hne : (c == '\n') = false := by
    rw [beq_eq_false_iff_ne]
    rintro rfl
    exact absurd hc (by decide)
  rw [isBreak, hne, Bool.false_or, isLineSeparator]

theorem isSpaceOrTab_eq {c : Char} (hc : 0x20 ≤ c.toNat) : isSpaceOrTab c = (c == ' ') := by
  have hne : (c == '\t') = false := by
    rw [beq_eq_false_iff_ne]
    rintro rfl
    exact absurd hc (by decide)
  rw [isSpaceOrTab, hne, Bool.or_false]

theorem of_startsWithWord_cons {c : Char} {word : List Char} {s : List Spot}
    (h : startsWithWord (c :: word) s = true) :
    ∃ p s', s = p :: s' ∧ p.char = c ∧ startsWithWord word s' = true := by
  cases s with
  | nil => simp [startsWithWord, startsWith, chars] at h
  | cons p s =>
    simp only [startsWithWord, startsWith, chars, List.length_cons, List.take_succ_cons, List.map_cons,
      List.drop_succ_cons, Bool.and_eq_true, beq_iff_eq, List.cons.injEq] at h
    refine ⟨p, s, rfl, h.1.1, ?_⟩
    simp only [startsWithWord, startsWith, chars, Bool.and_eq_true, beq_iff_eq]
    exact ⟨h.1.2, h.2⟩

/-! ### Escapes -/

theorem shortEscape?_of_json {x c : Char} (h : Json.shortEscape? x = some c) :
    shortEscape? x = some c := by
  unfold Json.shortEscape? at h
  split at h <;> cases h <;> rfl

theorem codeAt?_hexQuad {n : Nat} (h : n < 0x10000) {s : List Spot} (hs : chars s = hexQuad n)
    (rest : List Spot) : codeAt? 4 (s ++ rest) = some (n, rest) := by
  have hlength : s.length = 4 := by
    have := congrArg List.length hs
    simpa [chars, hexQuad] using this
  have hd (m : Nat) : hexDigit? (Nat.digitChar (m % 16)) = some (m % 16) :=
    hexDigit?_digitChar (Nat.mod_lt _ (by decide))
  have hn : 16 * (16 * (16 * (n / 4096 % 16) + n / 256 % 16) + n / 16 % 16) + n % 16 = n := by omega
  have hvalue : hexValue? (hexQuad n) = some n := by
    simp [hexValue?, hexQuad, hd, hn]
  rw [codeAt?, ← hlength, List.take_left, List.drop_left, hs, hvalue]
  simp [hexQuad, hlength]

theorem codeChar_small {n : Nat} (h : n < 0x20) (rest : List Spot) :
    codeChar n rest = .ok (Char.ofNat n, rest) := by
  have hhigh : isHighSurrogate n = false := by
    simp only [isHighSurrogate, Bool.and_eq_false_iff, decide_eq_false_iff_not]
    omega
  have hlow : isLowSurrogate n = false := by
    simp only [isLowSurrogate, Bool.and_eq_false_iff, decide_eq_false_iff_not]
    omega
  rw [codeChar, if_neg (by omega), hhigh, unitChar, hhigh, hlow]
  rfl

/-- What JSON writes for a character is a plain character, or an escape that YAML knows. -/
theorem escapeText_of_charText {c : Char} {s : List Spot} (hs : chars s = charText false c) :
    (∃ p, s = [p] ∧ p.char = c ∧ c ≠ '"' ∧ c ≠ '\\' ∧ 0x20 ≤ c.toNat) ∨
    (∃ b e, s = b :: e ∧ b.char = '\\' ∧ ∀ rest, escapeText (e ++ rest) = .ok ([c], rest)) := by
  rcases charText_false_cases c with ⟨x, h, hx⟩ | ⟨h, hc⟩ | ⟨h, hquote, hslash, hc⟩
  · rw [h] at hs
    obtain ⟨b, e, rfl, hb, he⟩ := List.map_eq_cons_iff.1 hs
    obtain ⟨p, rfl, hp⟩ := List.map_eq_singleton_iff.1 he
    refine .inr ⟨b, [p], rfl, hb, fun rest => ?_⟩
    simp only [List.singleton_append, escapeText, hp, shortEscape?_of_json hx]
  · rw [h, unitEscape] at hs
    obtain ⟨b, e, rfl, hb, he⟩ := List.map_eq_cons_iff.1 hs
    obtain ⟨u, digits, rfl, hu, hdigits⟩ := List.map_eq_cons_iff.1 he
    refine .inr ⟨b, u :: digits, rfl, hb, fun rest => ?_⟩
    simp only [List.cons_append, escapeText, hu]
    rw [show shortEscape? 'u' = none from rfl, show codeLength? 'u' = some 4 from rfl]
    simp only [codeAt?_hexQuad (by omega) hdigits rest, codeChar_small hc, Char.ofNat_toNat]
    rfl
  · rw [h] at hs
    obtain ⟨p, rfl, hp⟩ := List.map_eq_singleton_iff.1 hs
    exact .inl ⟨p, rfl, hp, hquote, hslash, hc⟩

/-! ### Texts up to their closing quotes -/

/-- A text as JSON writes it, from the opening quote up to what follows the closing one. -/
inductive Written : List Char → List Spot → List Spot → Prop
  | close {q : Spot} {rest : List Spot} (hq : q.char = '"') : Written [] (q :: rest) rest
  | raw {p : Spot} {text : List Char} {s rest : List Spot} (hquote : p.char ≠ '"')
      (hslash : p.char ≠ '\\') (hp : 0x20 ≤ p.char.toNat) (h : Written text s rest) :
      Written (p.char :: text) (p :: s) rest
  | escape {c : Char} {b : Spot} {e : List Spot} {text : List Char} {s rest : List Spot}
      (hb : b.char = '\\') (he : escapeText (e ++ s) = .ok ([c], s)) (h : Written text s rest) :
      Written (c :: text) (b :: (e ++ s)) rest

theorem written_of_chars {text : List Char} {s : List Spot} {q : Spot}
    (hs : chars s = text.flatMap (charText false)) (hq : q.char = '"') (rest : List Spot) :
    Written text (s ++ q :: rest) rest := by
  induction text generalizing s with
  | nil =>
    obtain rfl : s = [] := List.map_eq_nil_iff.1 hs
    exact .close hq
  | cons c text ih =>
    obtain ⟨e, s', rfl, he, htext⟩ := List.map_eq_append_iff.1 hs
    rw [List.append_assoc]
    obtain ⟨p, rfl, rfl, hquote, hslash, hp⟩ | ⟨b, e, rfl, hb, he⟩ := escapeText_of_charText he
    · exact .raw hquote hslash hp (ih htext)
    · exact .escape hb (he _) (ih htext)

namespace Written

variable {c : Char} {text : List Char} {p : Spot} {s rest : List Spot}

theorem ne_nil (h : Written text s rest) : s ≠ [] := by
  cases h <;> exact List.cons_ne_nil _ _

theorem length_le (h : Written text s rest) : rest.length ≤ s.length := by
  induction h with
  | close => simp
  | raw _ _ _ _ ih =>
    rw [List.length_cons]
    omega
  | escape _ _ _ ih =>
    rw [List.length_cons, List.length_append]
    omega

/-- A character that is no quote and no backslash is one of the text. -/
theorem of_raw (h : Written text (p :: s) rest) (hquote : p.char ≠ '"') (hslash : p.char ≠ '\\') :
    ∃ text', text = p.char :: text' ∧ 0x20 ≤ p.char.toNat ∧ Written text' s rest := by
  cases h with
  | close hq => exact absurd hq hquote
  | raw _ _ hp h => exact ⟨_, rfl, hp, h⟩
  | escape hb => exact absurd hb hslash

/-- A mark of a document in its places is one of the text. -/
theorem startsWithMark_of_word {mark : Char} (hmark : mark = '-' ∨ mark = '.')
    (h : Written text s rest) (hs : startsWithWord [mark, mark, mark] s = true) :
    startsWithMark text = true := by
  have hraw : mark ≠ '"' ∧ mark ≠ '\\' := by
    rcases hmark with rfl | rfl <;> decide
  obtain ⟨p₁, s₁, rfl, h₁, hs⟩ := of_startsWithWord_cons hs
  obtain ⟨text₁, rfl, -, h⟩ := h.of_raw (h₁ ▸ hraw.1) (h₁ ▸ hraw.2)
  obtain ⟨p₂, s₂, rfl, h₂, hs⟩ := of_startsWithWord_cons hs
  obtain ⟨text₂, rfl, -, h⟩ := h.of_raw (h₂ ▸ hraw.1) (h₂ ▸ hraw.2)
  obtain ⟨p₃, s₃, rfl, h₃, hs⟩ := of_startsWithWord_cons hs
  obtain ⟨text₃, rfl, -, h⟩ := h.of_raw (h₃ ▸ hraw.1) (h₃ ▸ hraw.2)
  have hafter : text₃.head?.any (fun c => c == ' ' || isLineSeparator c) = true := by
    change endsOrIn isGap s₃ = true at hs
    cases h with
    | close hq => simp [endsOrIn, hq, isGap, isSpaceOrTab, isBreak] at hs
    | escape hb => simp [endsOrIn, hb, isGap, isSpaceOrTab, isBreak] at hs
    | raw _ _ hp _ =>
      rw [List.head?_cons, Option.any_some, ← isSpaceOrTab_eq hp, ← isBreak_eq hp]
      exact hs
  rw [startsWithMark, h₁, h₂, h₃, Bool.and_eq_true]
  exact ⟨by rcases hmark with rfl | rfl <;> rfl, hafter⟩

theorem atSeparator_eq_false (h : Written text s rest) (htext : startsWithMark text = false) :
    atSeparator s = false := by
  rw [atSeparator, Bool.and_eq_false_iff, Bool.or_eq_false_iff]
  refine .inr ⟨?_, ?_⟩
  all_goals
    rw [← Bool.not_eq_true]
    intro hs
    have := h.startsWithMark_of_word (by simp) hs
    simp [htext] at this

/-! ### Runs of characters -/

/-- The line ends after a separator of lines are separators, and the text goes on after them. -/
theorem skipLines_eq (h : Written text s rest) (hc : isLineSeparator c = true)
    (hkeeps : keepsLines (c :: text) = true) :
    skipLines isSpaceOrTab s = (chars (s.takeWhile fun x => isBreak x.char),
        s.dropWhile fun x => isBreak x.char) ∧
      atSeparator (s.dropWhile fun x => isBreak x.char) = false := by
  obtain ⟨hblank, hmark⟩ := keepsLines_separator hc hkeeps
  have hend := h.atSeparator_eq_false hmark
  induction h generalizing c with
  | close hq => simpa [skipLines, hq, isBreak, isSpaceOrTab, chars] using hend
  | escape hb => simpa [skipLines, hb, isBreak, isSpaceOrTab, chars] using hend
  | @raw p text s rest _ _ hp h ih =>
    cases hbreak : isBreak p.char with
    | true =>
      have hline : isLineSeparator p.char = true := isBreak_eq hp ▸ hbreak
      have hkeeps := keepsLines_tail hkeeps
      obtain ⟨hblank, hmark⟩ := keepsLines_separator hline hkeeps
      obtain ⟨hskip, hseparator⟩ := ih hline hkeeps hblank hmark (h.atSeparator_eq_false hmark)
      simpa [skipLines, hbreak, hskip, chars] using hseparator
    | false =>
      have hspace : isSpaceOrTab p.char = false := by simpa [isSpaceOrTab_eq hp] using hblank
      simpa [skipLines, hbreak, hspace, chars] using hend

/-- After the blanks that follow a blank stands no line end. -/
theorem dropWhile_blank (h : Written text s rest) (hkeeps : keepsLines (' ' :: text) = true) :
    ∃ p s', (s.dropWhile fun x => isSpaceOrTab x.char) = p :: s' ∧ isBreak p.char = false := by
  induction h with
  | @close q rest hq => exact ⟨q, rest, by simp [hq, isSpaceOrTab], by simp [hq, isBreak]⟩
  | @escape c b e text s rest hb he h ih =>
    exact ⟨b, e ++ s, by simp [hb, isSpaceOrTab], by simp [hb, isBreak]⟩
  | @raw p text s rest _ _ hp h ih =>
    cases hspace : isSpaceOrTab p.char with
    | true =>
      have hblank : p.char = ' ' := by simpa [isSpaceOrTab_eq hp] using hspace
      rw [List.dropWhile_cons, if_pos hspace]
      exact ih (hblank ▸ keepsLines_tail hkeeps)
    | false =>
      have hline : isLineSeparator p.char = false := keepsLines_blank hkeeps
      rw [List.dropWhile_cons, if_neg (by simp [hspace])]
      exact ⟨p, s, rfl, by rw [isBreak_eq hp, hline]⟩

/-- The characters that belong to one piece with a character. -/
def runClass (c : Char) : Char → Bool :=
  if isBreak c then isBreak else if isSpaceOrTab c then isSpaceOrTab else Quote.double.isOrdinary

theorem runClass_self {c : Char} (hquote : c ≠ '"') (hslash : c ≠ '\\') : runClass c c = true := by
  cases hbreak : isBreak c <;> cases hspace : isSpaceOrTab c <;>
    simp [runClass, Quote.isOrdinary, Quote.mark, isGap, hbreak, hspace, hquote, hslash]

/-- The class of a character is the class of all that belong to it. -/
theorem runClass_eq {c d : Char} (h : runClass c d = true) :
    runClass d = runClass c ∧ d ≠ '"' ∧ d ≠ '\\' := by
  have hne : d ≠ '"' ∧ d ≠ '\\' := by
    constructor
    all_goals
      rintro rfl
      revert h
      rw [runClass]
      split
      · decide
      · split <;> decide
  refine ⟨?_, hne⟩
  cases hbreak : isBreak c with
  | true =>
    have hd : isBreak d = true := by simpa [runClass, hbreak] using h
    simp [runClass, hbreak, hd]
  | false =>
    cases hspace : isSpaceOrTab c with
    | true =>
      have hd : isSpaceOrTab d = true := by simpa [runClass, hbreak, hspace] using h
      have hd' : isBreak d = false := by
        rcases Bool.or_eq_true_iff.1 hd with hd | hd <;> rw [beq_iff_eq.1 hd] <;> decide
      simp [runClass, hbreak, hspace, hd, hd']
    | false =>
      have hd : Quote.double.isOrdinary d = true := by simpa [runClass, hbreak, hspace] using h
      simp only [Quote.isOrdinary, isGap, Bool.and_eq_true, Bool.not_eq_true', Bool.or_eq_false_iff] at hd
      simp [runClass, hbreak, hspace, hd.2.1, hd.2.2]

/-- A piece of a text is a run of characters of one class. -/
theorem quotedPiece_eq (hquote : p.char ≠ '"') (hslash : p.char ≠ '\\') (hp : 0x20 ≤ p.char.toNat)
    (h : Written text s rest) (hkeeps : keepsLines (p.char :: text) = true) :
    quotedPiece .double (p :: s) = .ok
      (.more (chars ((p :: s).takeWhile fun x => runClass p.char x.char))
        ((p :: s).dropWhile fun x => runClass p.char x.char)) := by
  have hmark : (p.char == Quote.double.mark) = false := beq_eq_false_iff_ne.2 hquote
  have hescape : (p.char == '\\') = false := beq_eq_false_iff_ne.2 hslash
  rw [quotedPiece]
  simp only [hmark, hescape, Bool.and_false, Bool.false_eq_true, if_false]
  cases hbreak : isBreak p.char with
  | true =>
    have hline : isLineSeparator p.char = true := isBreak_eq hp ▸ hbreak
    have hspace : isSpaceOrTab p.char = false := by
      rw [isSpaceOrTab_eq hp, beq_eq_false_iff_ne]
      intro heq
      rw [heq] at hbreak
      exact absurd hbreak (by decide)
    obtain ⟨hskip, hseparator⟩ := h.skipLines_eq hline hkeeps
    have hfolded (others : List Char) : folded p.char others = p.char :: others := by
      have hne : (p.char != '\n') = true := by
        rw [bne_iff_ne]
        intro heq
        rw [heq] at hp
        exact absurd hp (by decide)
      rw [folded, if_pos hne]
    simp [runClass, isGap, quotedGap, quotedLines, hbreak, hspace, hskip, hseparator, hfolded, Except.map,
      chars]
  | false =>
    cases hspace : isSpaceOrTab p.char with
    | true =>
      have hblank : p.char = ' ' := by simpa [isSpaceOrTab_eq hp] using hspace
      obtain ⟨d, s', hdrop, hd⟩ := h.dropWhile_blank (hblank ▸ hkeeps)
      simp [runClass, isGap, quotedGap, hbreak, hspace, hdrop, hd, Except.map, chars]
    | false => simp [runClass, isGap, hbreak, hspace]

end Written

/-! ### The text -/

/-- A text that is read from within quotes. -/
def Quotes (text : List Char) (s rest : List Spot) : Prop :=
  ∀ fuel, s.length < fuel → quotedPieces .double fuel s = .ok (text, rest)

theorem Quotes.more {piece text : List Char} {s s' rest : List Spot}
    (hpiece : quotedPiece .double s = .ok (.more piece s')) (hlength : s'.length < s.length)
    (h : Quotes text s' rest) : Quotes (piece ++ text) s rest := by
  rintro (_ | fuel) hfuel
  · omega
  · rw [quotedPieces, hpiece]
    simp only [bind, Except.bind, h fuel (by omega)]
    rfl

/-- A character before a piece that it belongs to. -/
theorem Quotes.join {p : Spot} {piece text : List Char} {s s' rest : List Spot}
    (hpiece : quotedPiece .double s = .ok (.more piece s'))
    (hjoined : quotedPiece .double (p :: s) = .ok (.more (p.char :: piece) s'))
    (h : Quotes text s rest) : Quotes (p.char :: text) (p :: s) rest := by
  rintro (_ | fuel) hfuel
  · omega
  · have hs := h (fuel + 1) (by rw [List.length_cons] at hfuel; omega)
    rw [quotedPieces, hpiece] at hs
    rw [quotedPieces, hjoined]
    simp only [bind, Except.bind] at hs ⊢
    cases hrest : quotedPieces .double fuel s' with
    | error e =>
      rw [hrest] at hs
      cases hs
    | ok r =>
      rw [hrest] at hs
      cases hs
      rfl

theorem Written.quotes {text : List Char} {s rest : List Spot} (h : Written text s rest)
    (hkeeps : keepsLines text = true) : Quotes text s rest := by
  induction h with
  | @close q rest hq =>
    rintro (_ | fuel) hfuel
    · omega
    · simp [quotedPieces, quotedPiece, hq, Quote.mark, bind, Except.bind, pure, Except.pure]
  | @escape c b e text s rest hb he h ih =>
    have hpiece : quotedPiece .double (b :: (e ++ s)) = .ok (.more [c] s) := by
      simp [quotedPiece, hb, he, Quote.mark, Except.map]
    have hlength : s.length < (b :: (e ++ s)).length := by
      rw [List.length_cons, List.length_append]
      omega
    exact Quotes.more hpiece hlength (ih (keepsLines_tail hkeeps))
  | @raw p text s rest hquote hslash hp h ih =>
    have ih := ih (keepsLines_tail hkeeps)
    have hpiece := h.quotedPiece_eq hquote hslash hp hkeeps
    have hself := runClass_self hquote hslash
    obtain ⟨q, s, rfl⟩ := List.exists_cons_of_ne_nil h.ne_nil
    cases hclass : runClass p.char q.char with
    | false =>
      -- the piece ends before the next character
      simp only [List.takeWhile_cons, List.dropWhile_cons, hself, hclass, if_true, Bool.false_eq_true,
        if_false] at hpiece
      exact Quotes.more hpiece (by simp) ih
    | true =>
      obtain ⟨hsame, hquote', hslash'⟩ := runClass_eq hclass
      obtain ⟨text', rfl, hq, h'⟩ := h.of_raw hquote' hslash'
      have hnext := h'.quotedPiece_eq hquote' hslash' hq (keepsLines_tail hkeeps)
      rw [hsame] at hnext
      rw [List.takeWhile_cons, if_pos hself, List.dropWhile_cons, if_pos hself] at hpiece
      exact Quotes.join hnext hpiece ih

/-- **A text that keeps its lines is read back from within quotes.** -/
theorem Written.quotedScalar_eq {text : String} {s rest : List Spot} (h : Written text.toList s rest)
    (hkeeps : keepsLines text.toList = true) : quotedScalar .double s = .ok (text, rest) := by
  rw [quotedScalar, h.quotes hkeeps (s.length + 1) (by omega)]
  simp only [Except.map, String.ofList_toList]

end ScriptDoc.Yaml
