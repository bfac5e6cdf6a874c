import ScriptDoc.Proofs.Json.RoundTrip
import ScriptDoc.Proofs.Yaml.Steps

/-!
# The tokens of a value

JSON and YAML read a truth value, a list and an object alike, and a text if none of its characters means
something else to YAML.  The text that JSON writes for such a value is cut into the tokens of YAML for it.

* `isCommonText`, `isShortKey`, `Common`: the texts, keys and values that are the same in both languages;
* `valueTokens`: the tokens of a value;
* `Common.isVerbatim`: all characters of its text stand for themselves;
* `Lexer.reads_value`: the text of a value is read as its tokens wherever it stands between brackets;
* `tokenStream_eq`: the text of an object is read as its tokens.
-/

namespace ScriptDoc.Yaml

open ScriptDoc.Text ScriptDoc.Json

/-! ### What both languages read alike -/

/-- Whether a character is escaped in a text of JSON, or may stand in one of YAML and ends no line there
that it does not end in JSON. -/
def isCommonChar (c : Char) : Bool := c.toNat < 0x20 || (isPrintable c && c != '\u0085')

/-- Whether a text of JSON is the same text of YAML. -/
def isCommonText (s : String) : Bool := s.toList.all isCommonChar && keepsLines s.toList

/-- Whether a name can be a key: it stands on one line, and its colon is not far away. -/
def isShortKey (name : String) : Bool :=
  isCommonText name && name.toList.all (!isLineSeparator ·)
    && (stringText false name).length ≤ Lexer.maxKeyLength

theorem of_isShortKey {name : String} (h : isShortKey name = true) :
    isCommonText name = true ∧ (∀ c ∈ name.toList, isLineSeparator c = false) ∧
      (stringText false name).length ≤ Lexer.maxKeyLength := by
  simpa [isShortKey, and_assoc] using h

/-- A value that is the same in both languages, with collections nested `room` deep. -/
inductive Common : Nat → Value → Prop where
  | bool {room : Nat} (b : Bool) : Common room (.bool b)
  | text {room : Nat} {s : String} (h : isCommonText s = true) : Common room (.text s)
  | list {room : Nat} {items : List Value} (h : ∀ v ∈ items, Common room v) :
      Common (room + 1) (.list items)
  | object {room : Nat} {fields : List (String × Value)} (distinct : (fields.map Prod.fst).Nodup)
      (short : ∀ f ∈ fields, isShortKey f.1 = true) (h : ∀ f ∈ fields, Common room f.2) :
      Common (room + 1) (.object fields)

/-! ### Characters -/

/-- Whether a character may stand in a text and stands for itself. -/
def isVerbatim (c : Char) : Bool := isPrintable c && c != '\r' && c != '\u0085'

theorem isVerbatim_of_mem_charText {c x : Char} (h : isCommonChar c = true) (hx : x ∈ charText false c) :
    isVerbatim x = true := by
  rcases eq_or_mem_escapeChars hx with ⟨rfl, hraw⟩ | hx
  · have hreturn : x ≠ '\r' := by
      rintro rfl
      exact absurd hraw (by decide)
    have hsmall : ¬ x.toNat < 0x20 := by omega
    simpa [isCommonChar, isVerbatim, hsmall, hreturn] using h
  · have hall : escapeChars.all isVerbatim = true := by decide
    exact List.all_eq_true.1 hall x hx

theorem isVerbatim_of_mem_stringText {s : String} (h : isCommonText s = true) :
    ∀ x ∈ stringText false s, isVerbatim x = true := by
  rw [isCommonText, Bool.and_eq_true, List.all_eq_true] at h
  simp only [stringText, List.forall_mem_append, List.forall_mem_singleton, List.forall_mem_cons,
    List.mem_flatMap]
  refine ⟨⟨rfl, ?_⟩, rfl⟩
  rintro x ⟨c, hc, hx⟩
  exact isVerbatim_of_mem_charText (h.1 c hc) hx

/-- All characters of a value's text stand for themselves. -/
theorem Common.isVerbatim {style : Style} (hstyle : style.ascii = false) {room : Nat} {v : Value}
    (h : Common room v) (level : Nat) : ∀ x ∈ renderAt style level v, isVerbatim x = true := by
  induction h generalizing level with
  | bool b =>
    rw [Value.bool, renderAt, scalarText, ← List.all_eq_true]
    cases b <;> decide
  | text h =>
    rw [Value.text, renderAt, scalarText, hstyle]
    exact isVerbatim_of_mem_stringText h
  | list _ ih =>
    rw [renderAt, renderItems_eq]
    refine forall_mem_enclosed (P := fun x => Yaml.isVerbatim x = true) rfl rfl rfl style _ rfl rfl
      fun part hpart => ?_
    obtain ⟨v, hv, rfl⟩ := List.mem_map.1 hpart
    exact ih v hv _
  | object _ short _ ih =>
    rw [Value.object_eq, renderAt, renderEntries_eq]
    refine forall_mem_enclosed (P := fun x => Yaml.isVerbatim x = true) rfl rfl rfl style _ rfl rfl
      fun part hpart => ?_
    obtain ⟨f, hf, rfl⟩ := List.mem_map.1 hpart
    rw [fieldText, hstyle, List.forall_mem_append, List.forall_mem_append]
    have hcolon : [':', ' '].all Yaml.isVerbatim = true := by decide
    exact ⟨⟨isVerbatim_of_mem_stringText (of_isShortKey (short f hf)).1, List.all_eq_true.1 hcolon⟩,
      ih f hf _⟩

/-! ### Tokens -/

mutual

/-- The tokens of a value. -/
def valueTokens : Value → List Token
  | .scalar (.text s) => [.scalar s false]
  | .scalar (.bool b) => [.scalar (Lexer.wordOf b) true]
  | .scalar _ => []
  | .list items => .flowSequenceStart :: List.intercalate [.flowEntry] (itemTokens items) ++ [.flowSequenceEnd]
  | .map entries => .flowMappingStart :: List.intercalate [.flowEntry] (entryTokens entries) ++ [.flowMappingEnd]
  | .set _ => []

/-- The tokens of each item. -/
def itemTokens : List Value → List (List Token)
  | [] => []
  | v :: rest => valueTokens v :: itemTokens rest

/-- The tokens of each entry. -/
def entryTokens : List (Scalar × Value) → List (List Token)
  | [] => []
  | (.text name, v) :: rest => (.key :: .scalar name false :: .value :: valueTokens v) :: entryTokens rest
  | _ :: rest => entryTokens rest

end

/-- The tokens of a field. -/
def fieldTokens (f : String × Value) : List Token :=
  .key :: .scalar f.1 false :: .value :: valueTokens f.2

theorem itemTokens_eq (items : List Value) : itemTokens items = items.map valueTokens := by
  induction items with
  | nil => rfl
  | cons v items ih => rw [itemTokens, ih, List.map_cons]

theorem entryTokens_eq (fields : List (String × Value)) :
    entryTokens (Value.fieldEntries fields) = fields.map fieldTokens := by
  induction fields with
  | nil => rfl
  | cons f fields ih => rw [Value.fieldEntries_cons, entryTokens, ih, List.map_cons, fieldTokens]

theorem keepsLines_of_isCommonText {s : String} (h : isCommonText s = true) :
    keepsLines s.toList = true := by
  rw [isCommonText, Bool.and_eq_true] at h
  exact h.2

namespace Lexer

variable {l l' : Lexer} {p : Spot} {rest : List Spot}

/-! ### Lists and objects -/

/-- The lexer stands before a text between brackets, with blanks in front and the end of a value behind. -/
structure Before (l : Lexer) (text : List Char) (rest : List Spot) : Prop where
  calm : l.Calm
  deep : 1 < l.keys.length
  consecutive : Consecutive l.rest
  ends : Ends rest
  written : ∃ blanks s, Blanks blanks ∧ chars s = text ∧ l.rest = blanks ++ (s ++ rest)

/-- A text that is read as tokens where a key may start. -/
def ReadsPart (text : List Char) (tokens : List Token) : Prop :=
  ∀ (l : Lexer) (rest : List Spot), l.Before text rest → l.keyAllowed = true →
    ∃ l', l.Reads tokens rest l.keys.length l'

theorem blanks_of_chars {s : List Spot} {cs : List Char} (hs : chars s = cs)
    (h : ∀ c ∈ cs, c = ' ' ∨ c = '\n') : Blanks s := by
  subst hs
  exact fun p hp => h p.char (List.mem_map_of_mem hp)

/-- Parts with commas between them, one after another. -/
theorem readsPart_intercalate {α : Type} {text : α → List Char} {tokens : α → List Token}
    (style : Style) (level : Nat) {as : List α} (hne : as ≠ [])
    (h : ∀ a ∈ as, ReadsPart (text a) (tokens a)) :
    ReadsPart (List.intercalate (separator style level) (as.map text))
      (List.intercalate [.flowEntry] (as.map tokens)) := by
  induction as with
  | nil => contradiction
  | cons a as ih =>
    rw [List.forall_mem_cons] at h
    cases as with
    | nil => simpa using h.1
    | cons b as =>
      intro l rest hbefore hallowed
      obtain ⟨hcalm, hdeep, hcons, hends, blanks, s, hblanks, hs, hrest⟩ := hbefore
      obtain ⟨gap, hseparator, hgap⟩ := separator_eq style level
      rw [List.map_cons, List.map_cons, List.intercalate_cons_cons, ← List.map_cons, hseparator,
        List.append_assoc, List.cons_append] at hs
      obtain ⟨s₁, t, rfl, hs₁, ht⟩ := List.map_eq_append_iff.1 hs
      obtain ⟨comma, t, rfl, hcomma, ht⟩ := List.map_eq_cons_iff.1 ht
      obtain ⟨b₂, s₂, rfl, hb₂, hs₂⟩ := List.map_eq_append_iff.1 ht
      simp only [List.append_assoc, List.cons_append] at hrest
      rw [← hseparator] at hs₂
      obtain ⟨l₁, h₁⟩ := h.1 l _ ⟨hcalm, hdeep, hcons, ⟨[], comma, _, blanks_nil, rfl, .inl hcomma⟩, blanks, s₁,
        hblanks, hs₁, hrest⟩ hallowed
      have hat := h₁.standsAt [] blanks_nil (by rw [hcomma]; rfl) hdeep
      obtain ⟨l₂, h₂, hallowed₂, hrest₂⟩ := reads_comma h₁.calm hat hcomma
      rw [hrest] at hcons
      have hcons₂ : Consecutive l₂.rest := by
        rw [hrest₂]
        exact Consecutive.right (s := [comma]) hcons.right.right
      obtain ⟨l₃, h₃⟩ := ih (List.cons_ne_nil b as) h.2 l₂ rest ⟨h₂.calm, by rwa [h₂.depth, h₁.depth],
        hcons₂, hends, b₂, s₂, blanks_of_chars hb₂ hgap, hs₂, hrest₂⟩ hallowed₂
      have h₃ := (h₁.trans h₂).trans h₃
      rw [h₂.depth, h₁.depth] at h₃
      refine ⟨l₃, ?_⟩
      rw [List.map_cons, List.map_cons, List.intercalate_cons_cons, ← List.map_cons]
      exact h₃

theorem enclosed_eq_cons (style : Style) (level : Nat) (opening closing : Char)
    (parts : List (List Char)) : ∃ cs, enclosed style level opening closing parts = opening :: cs := by
  unfold enclosed
  split <;> exact ⟨_, rfl⟩

/-- A list or an object in its brackets. -/
theorem reads_enclosed {α : Type} {text : α → List Char} {tokens : α → List Token} (style : Style)
    (level : Nat) {as : List α} (h : ∀ a ∈ as, ReadsPart (text a) (tokens a)) {opening closing : Char}
    {start stop : Token}
    (hstart : opening = '[' ∧ start = .flowSequenceStart ∨ opening = '\x7b' ∧ start = .flowMappingStart)
    (hstop : closing = ']' ∧ stop = .flowSequenceEnd ∨ closing = '\x7d' ∧ stop = .flowMappingEnd)
    {s : List Spot} (hcalm : l.Calm) (hat : l.StandsAt p (s ++ rest)) (hcons : Consecutive (s ++ rest))
    (hs : chars (p :: s) = enclosed style (level + 1) opening closing (as.map text)) :
    ∃ l', l.Reads (start :: List.intercalate [.flowEntry] (as.map tokens) ++ [stop]) rest
      l.keys.length l' := by
  have hkeys := List.length_pos_iff.2 hcalm.nonempty
  have hp : p.char = opening := by
    obtain ⟨cs, hcs⟩ := enclosed_eq_cons style (level + 1) opening closing (as.map text)
    rw [hcs] at hs
    exact (List.cons.inj hs).1
  obtain ⟨l₁, h₁, hallowed, hrest₁⟩ := reads_open hcalm hat (hp ▸ hstart)
  have hclosing : startsToken closing = true := by
    rcases hstop with ⟨rfl, -⟩ | ⟨rfl, -⟩ <;> rfl
  by_cases hne : as = []
  · subst hne
    obtain ⟨q, rfl, hq⟩ : ∃ q, s = [q] ∧ q.char = closing := by
      have hs : chars s = [closing] := (List.cons.inj hs).2
      exact List.map_eq_singleton_iff.1 hs
    have hat₁ := h₁.standsAt [] blanks_nil (hq ▸ hclosing) (by omega)
    obtain ⟨l₂, h₂⟩ := reads_close h₁.calm hat₁ (by rw [h₁.depth]; omega) (hq ▸ hstop)
    have h₂ := h₁.trans h₂
    rw [h₁.depth, Nat.add_sub_cancel] at h₂
    exact ⟨l₂, h₂⟩
  · have hparts : as.map text ≠ [] := by rwa [ne_eq, List.map_eq_nil_iff]
    have htext := enclosed_of_ne_nil style level opening closing hparts []
    rw [List.append_nil, ← hs] at htext
    obtain ⟨b₁, t, rfl, hb₁, ht⟩ := List.map_eq_append_iff.1 (List.cons.inj htext).2
    obtain ⟨s₁, t, rfl, hs₁, ht⟩ := List.map_eq_append_iff.1 ht
    obtain ⟨b₂, t, rfl, hb₂, ht⟩ := List.map_eq_append_iff.1 ht
    obtain ⟨q, rfl, hq⟩ := List.map_eq_singleton_iff.1 ht
    simp only [List.append_assoc, List.singleton_append] at hrest₁ hcons
    have hblanks₁ := blanks_of_chars hb₁ (blank_of_mem_lead style (level + 1))
    have hblanks₂ := blanks_of_chars hb₂ (blank_of_mem_lead style level)
    have hends : Ends (b₂ ++ q :: rest) := by
      refine ⟨b₂, q, rest, hblanks₂, rfl, ?_⟩
      rw [hq]
      exact .inr (hstop.imp And.left And.left)
    obtain ⟨l₂, h₂⟩ := readsPart_intercalate style (level + 1) hne h l₁ _
      ⟨h₁.calm, by rw [h₁.depth]; omega, hrest₁ ▸ hcons, hends, b₁, s₁, hblanks₁, hs₁, hrest₁⟩ hallowed
    have hat₂ := h₂.standsAt b₂ hblanks₂ (hq ▸ hclosing) (by rw [h₁.depth]; omega)
    obtain ⟨l₃, h₃⟩ := reads_close h₂.calm hat₂ (by rw [h₂.depth, h₁.depth]; omega) (hq ▸ hstop)
    have h₃ := (h₁.trans h₂).trans h₃
    rw [h₂.depth, h₁.depth, Nat.add_sub_cancel] at h₃
    exact ⟨l₃, h₃⟩

theorem Before.standsAt {text : List Char} {blanks s : List Spot} (h : l.Before text rest)
    (hblanks : Blanks blanks) (hrest : l.rest = blanks ++ p :: s) (hp : startsToken p.char = true) :
    l.StandsAt p s :=
  ⟨hp, blanks, hblanks, hrest, .inl (by simpa [inFlow] using h.deep)⟩

theorem Before.reads_enclosed {α : Type} {text : α → List Char} {tokens : α → List Token} {style : Style}
    {level : Nat} {as : List α} {opening closing : Char} {start stop : Token}
    (hbefore : l.Before (enclosed style (level + 1) opening closing (as.map text)) rest)
    (h : ∀ a ∈ as, ReadsPart (text a) (tokens a))
    (hstart : opening = '[' ∧ start = .flowSequenceStart ∨ opening = '\x7b' ∧ start = .flowMappingStart)
    (hstop : closing = ']' ∧ stop = .flowSequenceEnd ∨ closing = '\x7d' ∧ stop = .flowMappingEnd) :
    ∃ l', l.Reads (start :: List.intercalate [.flowEntry] (as.map tokens) ++ [stop]) rest
      l.keys.length l' := by
  obtain ⟨blanks, s, hblanks, hs, hrest⟩ := hbefore.written
  obtain ⟨cs, hcs⟩ := enclosed_eq_cons style (level + 1) opening closing (as.map text)
  obtain ⟨p, s, rfl, hp, -⟩ := List.map_eq_cons_iff.1 (hs.trans hcs)
  have hstarts : startsToken p.char = true := by
    rcases hstart with ⟨rfl, -⟩ | ⟨rfl, -⟩ <;> rw [hp] <;> rfl
  have hcons := hbefore.consecutive
  rw [hrest] at hcons
  exact Lexer.reads_enclosed style level h hstart hstop hbefore.calm
    (hbefore.standsAt hblanks hrest hstarts) (Consecutive.right (s := [p]) hcons.right) hs

/-! ### Values -/

/-- Only the separators of lines are line ends in what is written for a character. -/
theorem isBreak_of_mem_charText {c x : Char} (hx : x ∈ charText false c)
    (hc : isLineSeparator c = false) : isBreak x = false := by
  rcases eq_or_mem_escapeChars hx with ⟨rfl, hraw⟩ | hx
  · rw [isBreak_eq hraw, hc]
  · have hall : escapeChars.all (!isBreak ·) = true := by decide
    simpa using List.all_eq_true.1 hall x hx

/-- A text with its quotes in its places. -/
theorem written_of_stringText {text : String} {s : List Spot} (hs : chars s = stringText false text)
    (rest : List Spot) :
    ∃ p body q, s = p :: (body ++ [q]) ∧ p.char = '"' ∧
      chars body = text.toList.flatMap (charText false) ∧ Written text.toList (body ++ q :: rest) rest := by
  rw [stringText, List.cons_append] at hs
  obtain ⟨p, t, rfl, hp, ht⟩ := List.map_eq_cons_iff.1 hs
  obtain ⟨body, t, rfl, hbody, ht⟩ := List.map_eq_append_iff.1 ht
  obtain ⟨q, rfl, hq⟩ := List.map_eq_singleton_iff.1 ht
  exact ⟨p, body, q, rfl, hp, hbody, written_of_chars hbody hq rest⟩

/-- The colon of a short key stands on its line and near to its start. -/
theorem isStale_eq_false {name : String} (hshort : isShortKey name = true) {s : List Spot} {colon : Spot}
    (hs : chars (p :: s) = stringText false name) (hcons : Consecutive (p :: (s ++ colon :: rest))) :
    isStale colon (l.keyHere p) = false := by
  obtain ⟨-, hline, hlength⟩ := of_isShortKey hshort
  have hbreak : ∀ x ∈ p :: s, isBreak x.char = false := by
    intro x hx
    have hx : x.char ∈ stringText false name := hs ▸ List.mem_map_of_mem hx
    rw [stringText, List.mem_append, List.mem_cons, List.mem_singleton, List.mem_flatMap] at hx
    rcases hx with (hx | ⟨c, hc, hx⟩) | hx
    · rw [hx]
      rfl
    · exact isBreak_of_mem_charText hx (hline c hc)
    · rw [hx]
      rfl
  rw [List.forall_mem_cons] at hbreak
  obtain ⟨hline, hindex⟩ := hcons.on_line hbreak.1 hbreak.2
  rw [← hs, chars, List.length_map, List.length_cons] at hlength
  rw [isStale, Bool.or_eq_false_iff]
  refine ⟨?_, decide_eq_false ?_⟩
  · simp [keyHere, hline]
  · rw [hindex]
    change ¬ p.index + _ + 1 > p.index + maxKeyLength
    omega

variable {style : Style}

/-- A field is read as its key and its value. -/
theorem readsPart_field (hstyle : style.ascii = false) {level : Nat} {f : String × Value}
    (hshort : isShortKey f.1 = true)
    (hvalue : ∀ (l : Lexer) rest, l.Before (renderAt style level f.2) rest →
      ∃ l', l.Reads (valueTokens f.2) rest l.keys.length l') :
    ReadsPart (fieldText style level f) (fieldTokens f) := by
  intro l rest hbefore hallowed
  obtain ⟨blanks, s, hblanks, hs, hrest⟩ := hbefore.written
  rw [fieldText, hstyle, List.append_assoc] at hs
  obtain ⟨s₁, t, rfl, hs₁, ht⟩ := List.map_eq_append_iff.1 hs
  obtain ⟨colon, t, rfl, hcolon, ht⟩ := List.map_eq_cons_iff.1 ht
  obtain ⟨space, s₂, rfl, hspace, hs₂⟩ := List.map_eq_cons_iff.1 ht
  obtain ⟨p, body, q, rfl, hp, hbody, hwritten⟩ :=
    written_of_stringText hs₁ (colon :: space :: (s₂ ++ rest))
  simp only [List.append_assoc, List.cons_append, List.nil_append] at hrest
  have hat := hbefore.standsAt hblanks hrest (by rw [hp]; rfl)
  have hcons := hbefore.consecutive
  rw [hrest] at hcons
  have hnear : isStale colon (l.keyHere p) = false :=
    isStale_eq_false hshort hs₁ (by simpa using hcons.right)
  obtain ⟨l₁, h₁, hrest₁⟩ := reads_key hbefore.calm hat hbefore.deep hallowed hp hwritten
    (keepsLines_of_isCommonText (of_isShortKey hshort).1) hcolon hnear
  have hcons₁ : Consecutive l₁.rest := by
    rw [hrest₁]
    exact Consecutive.right (s := p :: (body ++ [q, colon])) (by simpa using hcons.right)
  obtain ⟨l₂, h₂⟩ := hvalue l₁ rest ⟨h₁.calm, by rw [h₁.depth]; exact hbefore.deep, hcons₁, hbefore.ends,
    [space], s₂, by simpa [Blanks] using Or.inl hspace, hs₂, hrest₁⟩
  have h₂ := h₁.trans h₂
  rw [h₁.depth] at h₂
  exact ⟨l₂, h₂⟩

/-- **A value is read as its tokens**, wherever it stands between brackets. -/
theorem reads_value (hstyle : style.ascii = false) {room : Nat} {v : Value} (h : Common room v)
    (level : Nat) (l : Lexer) (rest : List Spot) (hbefore : l.Before (renderAt style level v) rest) :
    ∃ l', l.Reads (valueTokens v) rest l.keys.length l' := by
  induction h generalizing level l rest with
  | bool b =>
    obtain ⟨blanks, s, hblanks, hs, hrest⟩ := hbefore.written
    rw [Value.bool, renderAt, scalarText] at hs
    obtain ⟨p, word, rfl, hp⟩ : ∃ p word, s = p :: word ∧ startsToken p.char = true := by
      cases b <;> obtain ⟨p, word, rfl, hp, -⟩ := List.map_eq_cons_iff.1 hs <;>
        exact ⟨p, word, rfl, by rw [hp]; rfl⟩
    exact reads_bool hbefore.calm (hbefore.standsAt hblanks hrest hp) hbefore.deep hs hbefore.ends
  | text h =>
    obtain ⟨blanks, s, hblanks, hs, hrest⟩ := hbefore.written
    rw [Value.text, renderAt, scalarText, hstyle] at hs
    obtain ⟨p, body, q, rfl, hp, -, hwritten⟩ := written_of_stringText hs rest
    simp only [List.append_assoc, List.cons_append, List.nil_append] at hrest
    have hat := hbefore.standsAt hblanks hrest (by rw [hp]; rfl)
    obtain ⟨l', h', -⟩ := reads_text hbefore.calm hat hp hwritten (keepsLines_of_isCommonText h)
    exact ⟨l', h'⟩
  | @list room items h ih =>
    rw [renderAt, renderItems_eq] at hbefore
    rw [valueTokens, itemTokens_eq]
    exact hbefore.reads_enclosed (fun v hv l rest hbefore _ => ih v hv (level + 1) l rest hbefore)
      (.inl ⟨rfl, rfl⟩) (.inl ⟨rfl, rfl⟩)
  | @object room fields distinct short h ih =>
    rw [Value.object_eq, renderAt, renderEntries_eq] at hbefore
    rw [Value.object_eq, valueTokens, entryTokens_eq]
    exact hbefore.reads_enclosed
      (fun f hf => readsPart_field hstyle (short f hf) (ih f hf (level + 1)))
      (.inr ⟨rfl, rfl⟩) (.inr ⟨rfl, rfl⟩)

/-! ### Whole texts -/

theorem prepare_blanks (hrest : Blanks l.rest) :
    ∃ keyAllowed, l.prepare = .ok { l with rest := [], keyAllowed } := by
  have hskip := skipBlank_append hrest []
  rw [List.append_nil] at hskip
  rw [prepare, hskip]
  exact ⟨_, rfl⟩

theorem ended_blanks (h : l.Calm) (hrest : Blanks l.rest) : l.ended = ⟨l.tokens.reverse, none⟩ := by
  obtain ⟨keyAllowed, hprepare⟩ := prepare_blanks hrest
  have hclose : closeBlocks (fun _ => true) { l with rest := [], keyAllowed }
      = { l with rest := [], keyAllowed } := by
    simp only [closeBlocks, h.columns]
    split <;> simp
  have hfinish : finish { l with rest := [], keyAllowed } = .ok l.tokens.reverse := by
    rw [finish, hclose, forgetKey_eq (l := { l with rest := [], keyAllowed })
      ⟨h.keys, h.columns, h.nonempty⟩]
    rfl
  rw [ended, hprepare, Except.bind, hfinish]

/-- At the end of the text all tokens have been read. -/
theorem run_blanks (h : l.Calm) (hrest : Blanks l.rest) (fuel : Nat) :
    run (fuel + 1) l = ⟨l.tokens.reverse, none⟩ := by
  have hcalm : Calm { l with keys := freshKeys l.rest l.keys } :=
    h.of_keys (fun k hk => h.keys k (mem_of_mem_freshKeys hk)) (length_freshKeys _ _)
  have hadvance : advance? { l with keys := freshKeys l.rest l.keys } = .ok none := by
    obtain ⟨keyAllowed, hprepare⟩ := prepare_blanks (l := { l with keys := freshKeys l.rest l.keys }) hrest
    rw [advance?, hprepare]
    rfl
  rw [run, dropStale_eq h]
  simp only [hadvance, ended_blanks hcalm hrest]

end Lexer

theorem Common.of_object {room : Nat} {fields : List (String × Value)} (h : Common room (.object fields)) :
    ∃ depth, room = depth + 1 ∧ (fields.map Prod.fst).Nodup ∧ (∀ f ∈ fields, isShortKey f.1 = true) ∧
      ∀ f ∈ fields, Common depth f.2 := by
  generalize hv : Value.object fields = v at h
  cases h with
  | bool => cases hv
  | text => cases hv
  | list => cases hv
  | object distinct short h =>
    obtain rfl := Value.object_injective hv
    exact ⟨_, rfl, distinct, short, h⟩

/-- **An object is read as its tokens**, up to the line feed that ends its file. -/
theorem tokenStream_eq {style : Style} (hstyle : style.ascii = false) {room : Nat}
    {fields : List (String × Value)} (h : Common room (.object fields)) :
    tokenStream (locate (renderAt style 0 (.object fields) ++ ['\n']))
      = ⟨valueTokens (.object fields), none⟩ := by
  obtain ⟨text, htext⟩ : ∃ text, renderAt style 0 (.object fields) ++ ['\n'] = text := ⟨_, rfl⟩
  have hall : ∀ c ∈ text, c ≠ '\r' ∧ c ≠ '\u0085' := by
    rw [← htext, List.forall_mem_append]
    refine ⟨fun c hc => ?_, List.forall_mem_singleton.2 (by decide)⟩
    have hc := h.isVerbatim hstyle 0 c hc
    simp only [isVerbatim, Bool.and_eq_true, bne_iff_ne] at hc
    exact ⟨hc.1.2, hc.2⟩
  have hchars := chars_locateFrom hall 0 0 0
  have hcons := consecutive_locateFrom (fun hmem => (hall _ hmem).1 rfl) 0 0 0
  rw [htext, locate]
  generalize locateFrom 0 0 0 text = s at hchars hcons
  rw [← htext, Value.object_eq, renderAt, renderEntries_eq] at hchars
  obtain ⟨body, feed, rfl, hbody, hfeed⟩ := List.map_eq_append_iff.1 hchars
  obtain ⟨q, rfl, hq⟩ := List.map_eq_singleton_iff.1 hfeed
  obtain ⟨cs, hcs⟩ := Lexer.enclosed_eq_cons style 1 '\x7b' '\x7d' (fields.map (fieldText style 1))
  obtain ⟨p, body, rfl, hp, -⟩ := List.map_eq_cons_iff.1 (hbody.trans hcs)
  have hmark : (p.char == byteOrderMark) = false := by
    rw [hp]
    decide
  obtain ⟨_, -, -, short, h⟩ := h.of_object
  obtain ⟨l', h'⟩ := Lexer.reads_enclosed (l := { rest := p :: (body ++ [q]) }) style 0
    (fun f hf => Lexer.readsPart_field hstyle (short f hf) (Lexer.reads_value hstyle (h f hf) 1))
    (.inr ⟨rfl, rfl⟩) (.inr ⟨rfl, rfl⟩) ⟨by simp, rfl, List.cons_ne_nil _ _⟩
    ⟨by rw [hp]; rfl, [], blanks_nil, rfl, .inr rfl⟩ (Consecutive.right (s := [p]) hcons) hbody
  obtain ⟨n, hn, hrun⟩ := h'.leads
  have hblanks : Blanks l'.rest := by
    obtain ⟨blanks, -, hrest⟩ := h'.ahead
    intro x hx
    have hx : x ∈ [q] := hrest ▸ List.mem_append_right _ hx
    rw [List.mem_singleton.1 hx, hq]
    exact .inr rfl
  obtain ⟨fuel, hfuel⟩ : ∃ fuel, (p :: (body ++ [q])).length + 1 = n + (fuel + 1) :=
    ⟨(p :: (body ++ [q])).length - n, by simp only at hn; omega⟩
  simp only [List.cons_append, hmark, Bool.false_eq_true, if_false, tokenStream]
  rw [hfuel, hrun, Lexer.run_blanks h'.calm hblanks, h'.tokens, List.append_nil, List.reverse_reverse,
    Value.object_eq, valueTokens, entryTokens_eq]

end ScriptDoc.Yaml
