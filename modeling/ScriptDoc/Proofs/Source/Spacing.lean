import ScriptDoc.Proofs.Source.ArgumentGrammar

/-!
# Blanks beside the delimiters of argument lists

The delimiters of an argument list are its commas, the first opening bracket and the closing brackets at
its end.  A `Place` of a text is open if it has a delimiter or an end of the text on one side.

* `entries_gap`: blanks at an end of a section or beside a comma leave its entries as they are;
* `Place.entries_filled`: so do blanks at an open place, with two exceptions;
* `Place.AfterClosing`: after blanks, a closing bracket is part of an entry.  The parameters then have
  more closing brackets in them (`closings_of_parse?`);
* `Place.BeforeComma`: after blanks, the comma behind the opening bracket ends a blank entry.  The
  positions of all optional entries go up by one, which shows if one of them has no name
  (`parameters_eq_parameters_iff`);
* `spaced`: a text with blanks at any number of its places.

`parse?_spaced` says that blanks at open places make no difference, and that the two exceptions are all.
-/

namespace ScriptDoc

open ScriptDoc.Text

namespace ArgumentList

/-! ### Blanks in a section -/

theorem Blanks.not_mem (ws : Blanks) {c : Char} (hc : Text.isBlank c = false) : c ∉ ws.text := by
  intro h
  simp [ws.isBlank c h] at hc

/-- A place at an end of a section or beside a comma. -/
def IsGap (as bs : List Char) : Prop := (∀ c ∈ as.getLast?, c = ',') ∨ ∀ c ∈ bs.head?, c = ','

theorem IsGap.of_infix {as as' bs bs' : List Char} (h : IsGap as bs) (has : as' <:+ as)
    (hbs : bs' <+: bs) : IsGap as' bs' := by
  rcases h with h | h
  · left
    intro c hc
    obtain ⟨xs, rfl⟩ := has
    refine h c ?_
    rw [List.getLast?_append, hc]
    rfl
  · right
    intro c hc
    obtain ⟨xs, rfl⟩ := hbs
    refine h c ?_
    rw [List.head?_append, hc]
    rfl

theorem map_trim_splitOn_blank_append (ws : Blanks) (cs : List Char) :
    ((ws.text ++ cs).splitOn ',').map trim = (cs.splitOn ',').map trim := by
  have hfirst {as : List Char} (h : ',' ∉ as) :
      ((ws.text ++ as).splitOn ',').map trim = (as.splitOn ',').map trim := by
    have hws : ',' ∉ ws.text ++ as := by simp [h, ws.not_mem (show Text.isBlank ',' = false by decide)]
    rw [List.splitOn_eq_singleton hws, List.splitOn_eq_singleton h]
    simp [trim, trimLeft, List.dropWhile_append_of_pos ws.isBlank]
  by_cases hcomma : ',' ∈ cs
  · obtain ⟨as, bs, rfl, has⟩ := List.eq_append_cons_of_mem hcomma
    rw [← List.append_assoc, splitOn_append_comma, splitOn_append_comma, List.map_append,
      List.map_append, hfirst has]
  · exact hfirst hcomma

theorem map_trim_splitOn_gap {as bs : List Char} (h : IsGap as bs) (ws : Blanks) :
    ((as ++ ws.text ++ bs).splitOn ',').map trim = ((as ++ bs).splitOn ',').map trim := by
  rcases h with h | h
  · rcases as.eq_nil_or_concat' with rfl | ⟨as, c, rfl⟩
    · exact map_trim_splitOn_blank_append ws bs
    · obtain rfl := h c (by simp)
      have hcomma (cs : List Char) : as ++ [','] ++ cs = as ++ ',' :: cs := by simp
      rw [List.append_assoc, hcomma, hcomma, splitOn_append_comma, splitOn_append_comma,
        List.map_append, List.map_append, map_trim_splitOn_blank_append]
  · cases bs with
    | nil => simpa using map_trim_splitOn_append ws.isBlank as
    | cons c bs =>
      obtain rfl := h c rfl
      rw [splitOn_append_comma, splitOn_append_comma, List.map_append, List.map_append,
        map_trim_splitOn_append ws.isBlank]

/-- Blanks at an end of a section or beside a comma make no difference. -/
theorem entries_gap {as bs : List Char} (h : IsGap as bs) (ws : Blanks) :
    entries (as ++ ws.text ++ bs) = entries (as ++ bs) := by
  have hall : (as ++ ws.text ++ bs).all isBlank = (as ++ bs).all isBlank := by
    simp [List.all_eq_true.2 ws.isBlank]
  rw [entries, entries, hall, map_trim_splitOn_gap h]

/-! ### Blanks at the ends of sections -/

theorem dropLastComma_append {bs : List Char} (h : bs ≠ []) (as : List Char) :
    dropLastComma (as ++ bs) = as ++ dropLastComma bs := by
  rw [dropLastComma, dropLastComma, List.getLast?_append_of_ne_nil as h]
  split
  · exact List.dropLast_append_of_ne_nil h
  · rfl

theorem dropLastComma_isPrefix (cs : List Char) : dropLastComma cs <+: cs := by
  unfold dropLastComma
  split
  · exact List.dropLast_prefix cs
  · exact List.prefix_rfl

theorem dropFirstComma_append {as : List Char} (h : as ≠ []) (bs : List Char) :
    dropFirstComma (as ++ bs) = dropFirstComma as ++ bs := by
  cases as with
  | nil => exact absurd rfl h
  | cons a as => by_cases ha : a = ',' <;> simp [dropFirstComma, ha]

theorem dropFirstComma_isSuffix (cs : List Char) : dropFirstComma cs <:+ cs := by
  unfold dropFirstComma
  split
  · exact List.suffix_cons _ _
  · exact List.suffix_rfl

/-- Blanks in the text before the opening bracket. -/
theorem entries_front_gap {as bs : List Char} (h : IsGap as bs) (ws : Blanks) :
    entries (dropLastComma (trimRight isBlank (as ++ ws.text ++ bs))) =
      entries (dropLastComma (trimRight isBlank (as ++ bs))) := by
  by_cases hbs : trimRight isBlank bs = []
  · have hblank := forall_of_trimRight_eq_nil hbs
    rw [trimRight_append_of_forall hblank, trimRight_append_of_forall ws.isBlank,
      trimRight_append_of_forall hblank]
  · rw [trimRight_append_of_ne_nil hbs, trimRight_append_of_ne_nil hbs, dropLastComma_append hbs,
      dropLastComma_append hbs]
    have hprefix : dropLastComma (trimRight isBlank bs) <+: bs :=
      (dropLastComma_isPrefix _).trans <| List.rdropWhile_prefix isBlank bs
    exact entries_gap (h.of_infix List.suffix_rfl hprefix) ws

theorem Blanks.dropFirstComma_text (ws : Blanks) : dropFirstComma ws.text = ws.text :=
  dropFirstComma_eq_self fun c hc => (ws.allowed c (List.mem_of_mem_head? hc)).1

/-- Only the closing brackets at the end are dropped. -/
theorem trimRight_closing {as bs : List Char} (has : as.getLast? ≠ some ']') (hbs : ∀ c ∈ bs, c = ']') :
    trimRight (· == ']') (as ++ bs) = as := by
  rw [trimRight_append_of_forall (by simpa using hbs), trimRight_eq_self]
  intro c hc
  rw [beq_eq_false_iff_ne]
  rintro rfl
  exact has hc

theorem Blanks.getLast?_append_ne (ws : Blanks) {as : List Char}
    (h : ws.text = [] → as.getLast? ≠ some ']') : (as ++ ws.text).getLast? ≠ some ']' := by
  by_cases hws : ws.text = []
  · simpa [hws] using h hws
  · rw [List.getLast?_append_of_ne_nil as hws]
    exact fun hlast => ws.not_mem (by decide) (List.mem_of_getLast? hlast)

/-- Blanks before the closing brackets. -/
theorem entries_back_closing {as bs : List Char} (has : as.getLast? ≠ some ']')
    (hbs : ∀ c ∈ bs, c = ']') (ws : Blanks) :
    entries (dropFirstComma (trimRight (· == ']') (as ++ ws.text ++ bs))) =
      entries (dropFirstComma (trimRight (· == ']') (as ++ bs))) := by
  have hcomma : dropFirstComma (as ++ ws.text) = dropFirstComma as ++ ws.text := by
    by_cases hnil : as = []
    · subst hnil
      exact ws.dropFirstComma_text
    · exact dropFirstComma_append hnil _
  rw [trimRight_closing (ws.getLast?_append_ne fun _ => has) hbs, trimRight_closing has hbs, hcomma,
    entries_append_of_blank ws.isBlank]

/-- Blanks between optional entries. -/
theorem entries_back_gap {as bs : List Char} (h : IsGap as bs) (hcomma : as = [] → bs.head? ≠ some ',')
    (hbs : ¬ ∀ c ∈ bs, c = ']') {ws : Blanks} (hws : ws.text ≠ []) :
    entries (dropFirstComma (trimRight (· == ']') (as ++ ws.text ++ bs))) =
      entries (dropFirstComma (trimRight (· == ']') (as ++ bs))) := by
  have hne : trimRight (· == ']') bs ≠ [] := fun hnil =>
    hbs (by simpa using forall_of_trimRight_eq_nil hnil)
  have hprefix : trimRight (· == ']') bs <+: bs := List.rdropWhile_prefix _ bs
  rw [trimRight_append_of_ne_nil hne, trimRight_append_of_ne_nil hne]
  by_cases has : as = []
  · subst has
    have hhead : ∀ c ∈ (trimRight (· == ']') bs).head?, c ≠ ',' := by
      rintro c hc rfl
      obtain ⟨cs, hcs⟩ := hprefix
      refine hcomma rfl ?_
      rw [← hcs, List.head?_append, hc]
      rfl
    rw [List.nil_append, dropFirstComma_append hws, ws.dropFirstComma_text, List.nil_append,
      dropFirstComma_eq_self hhead]
    exact entries_gap (h.of_infix List.suffix_rfl hprefix) ws
  · rw [List.append_assoc, dropFirstComma_append has, dropFirstComma_append has, ← List.append_assoc]
    exact entries_gap (h.of_infix (dropFirstComma_isSuffix as) hprefix) ws

/-! ### Places -/

/-- A place in a text. -/
structure Place where
  before : List Char
  after : List Char
  deriving DecidableEq

/-- A comma, the first opening bracket, or one of the closing brackets at the end. -/
def IsDelimiter (before : List Char) (c : Char) (after : List Char) : Prop :=
  c = ',' ∨ (c = '[' ∧ '[' ∉ before) ∨ (c = ']' ∧ '[' ∈ before ∧ ∀ d ∈ after, d = ']')

theorem IsDelimiter.eq_or_eq {before after : List Char} {c : Char} (h : IsDelimiter before c after)
    (hbefore : '[' ∉ before) : c = ',' ∨ c = '[' := by
  rcases h with h | ⟨h, -⟩ | ⟨-, h, -⟩
  · exact .inl h
  · exact .inr h
  · exact absurd h hbefore

instance decidableForallClosing (cs : List Char) : Decidable (∀ c ∈ cs, c = ']') :=
  List.decidableBAll (· = ']') cs

instance (before : List Char) (c : Char) (after : List Char) : Decidable (IsDelimiter before c after) :=
  inferInstanceAs (Decidable (_ ∨ (_ ∧ _) ∨ (_ ∧ _ ∧ _)))

/-- An entry that does not get its name from its position. -/
def HasName (entry : List Char) : Prop := entry = [] ∨ entry = ellipsis ∨ ' ' ∈ entry

instance : DecidablePred HasName := fun _ => inferInstanceAs (Decidable (_ ∨ _ ∨ _))

/-- No optional entry of a text gets its name from its position. -/
def NamesOptions (t : List Char) : Prop := ∀ e ∈ entries (sections t).optional, HasName e

instance : DecidablePred NamesOptions := fun t =>
  inferInstanceAs (Decidable (∀ e ∈ entries (sections t).optional, HasName e))

namespace Place

/-- The text that a place is in. -/
def text (p : Place) : List Char := p.before ++ p.after

/-- The text with blanks at a place of it. -/
def filled (p : Place) (ws : Blanks) : List Char := p.before ++ ws.text ++ p.after

/-- On one side of the place stands a delimiter, or nothing. -/
def IsOpen (p : Place) : Prop :=
  (∀ c ∈ p.before.getLast?, IsDelimiter p.before.dropLast c p.after) ∨
    ∀ c ∈ p.after.head?, IsDelimiter p.before c p.after.tail

/-- The place follows one of the closing brackets at the end. -/
def AfterClosing (p : Place) : Prop :=
  p.before.getLast? = some ']' ∧ '[' ∈ p.before ∧ ∀ c ∈ p.after, c = ']'

/-- The place is between the first opening bracket and a comma. -/
def BeforeComma (p : Place) : Prop :=
  p.before.getLast? = some '[' ∧ '[' ∉ p.before.dropLast ∧ p.after.head? = some ','

/-- Blanks at the place neither keep a closing bracket from the end nor shift a generated name. -/
def IsHarmless (p : Place) : Prop := ¬ p.AfterClosing ∧ (p.BeforeComma → NamesOptions p.text)

instance : DecidablePred IsOpen := fun p =>
  @instDecidableOr _ _ (Option.decidableForallMem p.before.getLast?) (Option.decidableForallMem p.after.head?)

instance : DecidablePred AfterClosing := fun _ => inferInstanceAs (Decidable (_ ∧ _ ∧ _))

instance : DecidablePred BeforeComma := fun _ => inferInstanceAs (Decidable (_ ∧ _ ∧ _))

instance : DecidablePred IsHarmless := fun p =>
  inferInstanceAs (Decidable (¬ p.AfterClosing ∧ (p.BeforeComma → NamesOptions p.text)))

variable {p : Place}

theorem all_isBlank_filled (p : Place) (ws : Blanks) :
    (p.filled ws).all isBlank = p.text.all isBlank := by
  simp [filled, text, List.all_eq_true.2 ws.isBlank]

theorem IsOpen.isGap_front {before bs cs : List Char} (h : IsOpen ⟨before, bs ++ cs⟩)
    (hbefore : '[' ∉ before) (hbs : '[' ∉ bs) : IsGap before bs := by
  rcases h with h | h
  · left
    intro c hc
    have hnot : '[' ∉ before.dropLast := fun hmem => hbefore (List.dropLast_subset _ hmem)
    rcases (h c hc).eq_or_eq hnot with rfl | rfl
    · rfl
    · exact absurd (List.mem_of_getLast? hc) hbefore
  · right
    intro c hc
    have hhead : c ∈ (bs ++ cs).head? := by
      rw [List.head?_append, hc]
      rfl
    rcases (h c hhead).eq_or_eq hbefore with rfl | rfl
    · rfl
    · exact absurd (List.mem_of_mem_head? hc) hbs

theorem IsOpen.isGap_back {as bs after : List Char} (h : IsOpen ⟨as ++ '[' :: bs, after⟩)
    (hafter : ¬ ∀ c ∈ after, c = ']') : IsGap bs after := by
  rcases h with h | h
  · left
    intro c hc
    obtain ⟨bs, rfl⟩ : ∃ bs', bs = bs' ++ [c] := ⟨_, (List.dropLast_append_getLast? c hc).symm⟩
    have hbefore : as ++ '[' :: (bs ++ [c]) = as ++ '[' :: bs ++ [c] := by simp
    have hdelimiter := h c (by rw [hbefore, List.getLast?_concat]; rfl)
    rw [hbefore, List.dropLast_concat] at hdelimiter
    rcases hdelimiter with h | ⟨-, h⟩ | ⟨-, -, h⟩
    · exact h
    · simp at h
    · exact absurd h hafter
  · right
    intro c hc
    rcases h c hc with h | ⟨-, h⟩ | ⟨rfl, -, h⟩
    · exact h
    · simp at h
    · refine absurd ?_ hafter
      obtain ⟨bs', rfl⟩ := List.head?_eq_some_iff.1 hc
      simpa using h

/-- Blanks at an open place, other than the two exceptions, leave all entries as they are. -/
theorem entries_filled (hopen : p.IsOpen) (hclosing : ¬ p.AfterClosing) (hcomma : ¬ p.BeforeComma)
    {ws : Blanks} (hws : ws.text ≠ []) :
    entries (sections (p.filled ws)).mandatory = entries (sections p.text).mandatory ∧
      entries (sections (p.filled ws)).optional = entries (sections p.text).optional := by
  obtain ⟨before, after⟩ := p
  have hbracket : '[' ∉ ws.text := ws.not_mem (by decide)
  by_cases hbefore : '[' ∈ before
  · -- among the optional entries
    obtain ⟨as, bs, rfl, has⟩ := List.eq_append_cons_of_mem hbefore
    have hfilled : filled ⟨as ++ '[' :: bs, after⟩ ws = as ++ '[' :: (bs ++ ws.text ++ after) := by
      simp [filled]
    have htext : text ⟨as ++ '[' :: bs, after⟩ = as ++ '[' :: (bs ++ after) := by simp [text]
    rw [hfilled, htext, sections_append has, sections_append has]
    refine ⟨rfl, ?_⟩
    by_cases hafter : ∀ c ∈ after, c = ']'
    · refine entries_back_closing (fun hlast => hclosing ⟨?_, hbefore, hafter⟩) hafter ws
      simp [List.getLast?_append, List.getLast?_cons, hlast]
    · refine entries_back_gap (hopen.isGap_back hafter) ?_ hafter hws
      rintro rfl hhead
      exact hcomma ⟨by simp, by simpa using has, hhead⟩
  · by_cases hafter : '[' ∈ after
    · -- among the mandatory entries
      obtain ⟨bs, q, rfl, hbs⟩ := List.eq_append_cons_of_mem hafter
      have hfilled : filled ⟨before, bs ++ '[' :: q⟩ ws = before ++ ws.text ++ bs ++ '[' :: q := by
        simp [filled]
      have htext : text ⟨before, bs ++ '[' :: q⟩ = before ++ bs ++ '[' :: q := by simp [text]
      rw [hfilled, htext, sections_append (by simp [hbefore, hbs, hbracket]),
        sections_append (by simp [hbefore, hbs])]
      exact ⟨entries_front_gap (hopen.isGap_front hbefore hbs) ws, rfl⟩
    · rw [sections_of_not_mem (by simp [filled, hbefore, hafter, hbracket]),
        sections_of_not_mem (by simp [text, hbefore, hafter])]
      rw [← List.append_nil after] at hopen
      exact ⟨entries_gap (hopen.isGap_front hbefore hafter) ws, rfl⟩

end Place

/-! ### Positions of optional entries -/

theorem parse?_ofList {t : List Char} (h : t.all isBlank = false) :
    parse? (String.ofList t) = some (parameters true 1 (entries (sections t).mandatory) ++
      parameters false ((entries (sections t).mandatory).length + 1) (entries (sections t).optional)) := by
  simp [parse?, allBlank, h]

theorem dropWhile_eq_nil_iff_not_mem {e : List Char} : e.dropWhile (· != ' ') = [] ↔ ' ' ∉ e := by
  rw [List.dropWhile_eq_nil_iff]
  constructor
  · intro h hmem
    simpa using h ' ' hmem
  · intro h c hc
    rw [bne_iff_ne]
    rintro rfl
    exact h hc

theorem eq_of_repr_eq_repr {m n : Nat} (h : m.repr = n.repr) : m = n := by
  have hdigits : Nat.toDigits 10 m = Nat.toDigits 10 n := by
    rw [← Nat.toList_repr, h, Nat.toList_repr]
  rw [← Nat.ofDigitChars_ten_toDigits (n := m), hdigits, Nat.ofDigitChars_ten_toDigits]

/-- Its position makes no difference to an entry if and only if the entry has a name. -/
theorem parameter?_eq_parameter?_iff {m n : Nat} (hmn : m ≠ n) (required : Bool) (e : List Char) :
    parameter? required m e = parameter? required n e ↔ HasName e := by
  unfold parameter? HasName
  split
  · next hnil => simp [List.isEmpty_iff.1 hnil]
  · next hnil =>
    split
    · next hdrop =>
      have hspace : ' ' ∈ e := by
        by_contra hnot
        simp [dropWhile_eq_nil_iff_not_mem.2 hnot] at hdrop
      simp [hspace]
    · next hdrop =>
      have hspace : ' ' ∉ e := dropWhile_eq_nil_iff_not_mem.1 hdrop
      split
      · next hellipsis => simp [ellipsis, beq_iff_eq.1 hellipsis]
      · next hellipsis =>
        have hne : e ≠ ellipsis := fun h => hellipsis (beq_iff_eq.2 h)
        have hnil' : e ≠ [] := by simpa using hnil
        have hrepr : ¬ m.repr = n.repr := fun h => hmn (eq_of_repr_eq_repr h)
        simp [hne, hnil', hspace, hrepr]

theorem isSome_parameter? (required : Bool) (n : Nat) (e : List Char) :
    (parameter? required n e).isSome = !e.isEmpty := by
  unfold parameter?
  split
  · next h => simp [h]
  · next h =>
    split
    · simp [h]
    · split <;> simp [h]

theorem parameters_cons (required : Bool) (start : Nat) (e : List Char) (es : List (List Char)) :
    parameters required start (e :: es) =
      (parameter? required start e).toList ++ parameters required (start + 1) es := by
  rw [parameters, List.zipIdx_cons, List.filterMap_cons]
  cases parameter? required start e <;> rfl

/-- The first position makes no difference to entries if and only if all of them have names. -/
theorem parameters_eq_parameters_iff {m n : Nat} (hmn : m ≠ n) (required : Bool)
    (es : List (List Char)) :
    parameters required m es = parameters required n es ↔ ∀ e ∈ es, HasName e := by
  induction es generalizing m n with
  | nil => simp [parameters]
  | cons e es ih =>
    have hlength : (parameter? required m e).toList.length = (parameter? required n e).toList.length := by
      simp [Option.length_toList, isSome_parameter?]
    rw [parameters_cons, parameters_cons, List.forall_mem_cons, ← parameter?_eq_parameter?_iff hmn required,
      ← ih (show m + 1 ≠ n + 1 by omega)]
    constructor
    · intro h
      obtain ⟨hhead, htail⟩ := List.append_inj h hlength
      exact ⟨by simpa using congrArg List.head? hhead, htail⟩
    · rintro ⟨hhead, htail⟩
      rw [hhead, htail]

/-- A blank section has no entries, where one blank entry would declare nothing either. -/
theorem entries_eq_or (part : List Char) :
    entries part = (part.splitOn ',').map trim ∨
      entries part = [] ∧ (part.splitOn ',').map trim = [[]] := by
  unfold entries
  split
  · next h => exact .inr ⟨rfl, map_trim_splitOn_append (List.all_eq_true.1 h) []⟩
  · exact .inl rfl

theorem parameters_entries (required : Bool) (start : Nat) (part : List Char) :
    parameters required start (entries part) =
      parameters required start ((part.splitOn ',').map trim) := by
  rcases entries_eq_or part with h | ⟨h, hsplit⟩
  · rw [h]
  · rw [h, hsplit]
    rfl

theorem forall_hasName_entries (part : List Char) :
    (∀ e ∈ entries part, HasName e) ↔ ∀ e ∈ (part.splitOn ',').map trim, HasName e := by
  rcases entries_eq_or part with h | ⟨h, hsplit⟩
  · rw [h]
  · simp [h, hsplit, HasName]

/-- A comma after blanks ends a blank entry. -/
theorem map_trim_splitOn_blank_comma (ws : Blanks) (cs : List Char) :
    ((ws.text ++ ',' :: cs).splitOn ',').map trim = [] :: (cs.splitOn ',').map trim := by
  rw [map_trim_splitOn_blank_append, ← List.nil_append (',' :: cs), splitOn_append_comma]
  rfl

namespace Place

variable {p : Place}

theorem BeforeComma.exists_eq (h : p.BeforeComma) :
    ∃ as cs, '[' ∉ as ∧ p = ⟨as ++ ['['], ',' :: cs⟩ := by
  obtain ⟨before, after⟩ := p
  obtain ⟨hlast, hnot, hhead⟩ := h
  obtain ⟨cs, rfl⟩ := List.head?_eq_some_iff.1 hhead
  exact ⟨before.dropLast, cs, hnot, by rw [List.dropLast_append_getLast? _ hlast]⟩

/-- Only with blanks before it, the comma behind the bracket stays in the section. -/
theorem BeforeComma.sections_eq (h : p.BeforeComma) {ws : Blanks} (hws : ws.text ≠ []) :
    ∃ front back, sections p.text = ⟨front, back⟩ ∧
      sections (p.filled ws) = ⟨front, ws.text ++ ',' :: back⟩ := by
  obtain ⟨as, cs, has, rfl⟩ := h.exists_eq
  have htrim (xs : List Char) :
      trimRight (· == ']') (xs ++ ',' :: cs) = xs ++ ',' :: trimRight (· == ']') cs :=
    trimRight_append_cons (by decide) xs cs
  have htext : text ⟨as ++ ['['], ',' :: cs⟩ = as ++ '[' :: ([] ++ ',' :: cs) := by simp [text]
  have hfilled : filled ⟨as ++ ['['], ',' :: cs⟩ ws = as ++ '[' :: (ws.text ++ ',' :: cs) := by
    simp [filled]
  refine ⟨dropLastComma (trimRight isBlank as), trimRight (· == ']') cs, ?_, ?_⟩
  · rw [htext, sections_append has, htrim]
    rfl
  · rw [hfilled, sections_append has, htrim, dropFirstComma_append hws, ws.dropFirstComma_text]

theorem BeforeComma.namesOptions_filled_iff (h : p.BeforeComma) (ws : Blanks) :
    NamesOptions (p.filled ws) ↔ NamesOptions p.text := by
  by_cases hws : ws.text = []
  · simp [filled, text, hws]
  · obtain ⟨front, back, htext, hfilled⟩ := h.sections_eq hws
    rw [NamesOptions, NamesOptions, hfilled, htext, forall_hasName_entries,
      map_trim_splitOn_blank_comma, forall_hasName_entries]
    simp [HasName]

/-- Blanks between the bracket and a comma shift the optional entries. -/
theorem BeforeComma.parse?_filled_iff (h : p.BeforeComma) {ws : Blanks} (hws : ws.text ≠ []) :
    parse? (String.ofList (p.filled ws)) = parse? (String.ofList p.text) ↔ NamesOptions p.text := by
  obtain ⟨front, back, htext, hfilled⟩ := h.sections_eq hws
  have hblank : p.text.all isBlank = false := by
    obtain ⟨as, cs, -, rfl⟩ := h.exists_eq
    simp [text, show isBlank ',' = false by decide]
  rw [parse?_ofList hblank, parse?_ofList (by rw [all_isBlank_filled, hblank]), NamesOptions, hfilled,
    htext, Option.some_inj, List.append_cancel_left_eq, parameters_entries, parameters_entries,
    map_trim_splitOn_blank_comma, parameters_cons, forall_hasName_entries]
  exact parameters_eq_parameters_iff (Nat.succ_ne_self _) false _

end Place

/-! ### Closing brackets in entries -/

/-- The number of closing brackets in parameters. -/
def closings (ps : List Parameter) : Nat :=
  (ps.flatMap fun p => p.name.toList ++ p.typeName.toList).count ']'

theorem closings_append (ps qs : List Parameter) : closings (ps ++ qs) = closings ps + closings qs := by
  simp [closings]

theorem count_eq_zero_of_blank {ws : List Char} (h : ∀ c ∈ ws, isBlank c = true) : ws.count ']' = 0 :=
  List.count_eq_zero.2 (Blanks.not_mem ⟨ws, h⟩ (by decide))

/-- A parameter has the closing brackets of its entry; a generated name has none. -/
theorem closings_parameter? (required : Bool) (n : Nat) (e : List Char) :
    closings (parameter? required n e).toList = e.count ']' := by
  unfold parameter?
  split
  · next h => simp [List.isEmpty_iff.1 h, closings]
  · split
    · next c name hdrop =>
      have hc : c = ' ' := by simpa [hdrop] using List.head?_dropWhile_not (· != ' ') e
      subst hc
      have he : e.count ']' = (e.takeWhile (· != ' ')).count ']' + (' ' :: name).count ']' := by
        rw [← hdrop, ← List.count_append, List.takeWhile_append_dropWhile]
      simp [closings, he, Nat.add_comm]
    · split
      · next h => simp [beq_iff_eq.1 h, closings]
      · have hdigits : (Nat.toDigits 10 n).count ']' = 0 := by
          refine List.count_eq_zero.2 fun hmem => ?_
          exact absurd (Nat.isDigit_of_mem_toDigits (by decide) (by decide) hmem) (by decide)
        simp [closings, hdigits]

theorem closings_parameters (required : Bool) (start : Nat) (es : List (List Char)) :
    closings (parameters required start es) = es.flatten.count ']' := by
  induction es generalizing start with
  | nil => rfl
  | cons e es ih =>
    rw [parameters_cons, closings_append, closings_parameter?, ih, List.flatten_cons, List.count_append]

theorem count_trim (cs : List Char) : (trim cs).count ']' = cs.count ']' := by
  obtain ⟨ws, hws, hblank⟩ := trimRight_append_eq isBlank (trimLeft isBlank cs)
  have hleft : cs = cs.takeWhile isBlank ++ (trim cs ++ ws) := by
    rw [trim, ← hws, trimLeft, List.takeWhile_append_dropWhile]
  have htake : (cs.takeWhile isBlank).count ']' = 0 :=
    count_eq_zero_of_blank (List.all_eq_true.1 List.all_takeWhile)
  conv_rhs => rw [hleft]
  rw [List.count_append, List.count_append, htake, count_eq_zero_of_blank hblank]
  omega

theorem count_flatten_map_trim (es : List (List Char)) :
    (es.map trim).flatten.count ']' = es.flatten.count ']' := by
  induction es with
  | nil => rfl
  | cons e es ih =>
    rw [List.map_cons, List.flatten_cons, List.flatten_cons, List.count_append, List.count_append,
      count_trim, ih]

theorem count_flatten_splitOn (cs : List Char) : (cs.splitOn ',').flatten.count ']' = cs.count ']' := by
  rw [List.splitOn_eq_splitOnP]
  induction cs with
  | nil => simp
  | cons c cs ih =>
    rw [List.splitOnP_cons_eq_if_modifyHead]
    split
    · next hc => simp [ih, beq_iff_eq.1 hc]
    · -- the first entry gets one more character
      obtain ⟨e, es, hsplit⟩ := List.exists_cons_of_ne_nil (List.splitOnP_ne_nil (· == ',') cs)
      rw [hsplit, List.flatten_cons] at ih
      rw [hsplit, List.modifyHead_cons, List.flatten_cons, List.cons_append, List.count_cons,
        List.count_cons, ih]

theorem count_flatten_entries (part : List Char) :
    (entries part).flatten.count ']' = part.count ']' := by
  unfold entries
  split
  · next h => rw [count_eq_zero_of_blank (List.all_eq_true.1 h), List.flatten_nil, List.count_nil]
  · rw [count_flatten_map_trim, count_flatten_splitOn]

/-- No closing bracket of a section is lost. -/
theorem closings_of_parse? {t : List Char} {ps : List Parameter} (h : parse? (String.ofList t) = some ps) :
    closings ps = (sections t).mandatory.count ']' + (sections t).optional.count ']' := by
  have hblank : t.all isBlank = false := by
    by_contra hall
    have hnone := (parse?_eq_none_iff (String.ofList t)).2 (by simpa using hall)
    simp [hnone] at h
  rw [parse?_ofList hblank, Option.some_inj] at h
  rw [← h, closings_append, closings_parameters, closings_parameters,
    count_flatten_entries, count_flatten_entries]

theorem count_dropFirstComma (cs : List Char) : (dropFirstComma cs).count ']' = cs.count ']' := by
  unfold dropFirstComma
  split
  · simp
  · rfl

/-- A closing bracket with blanks after it is not dropped. -/
theorem count_trimRight_closing_lt {bs after : List Char} (hafter : ∀ c ∈ after, c = ']') {ws : Blanks}
    (hws : ws.text ≠ []) :
    (trimRight (· == ']') (bs ++ ']' :: after)).count ']' <
      (trimRight (· == ']') (bs ++ [']'] ++ ws.text ++ after)).count ']' := by
  have hdropped : trimRight (· == ']') (bs ++ ']' :: after) = trimRight (· == ']') bs :=
    trimRight_append_of_forall (by simpa using hafter) bs
  have hle : (trimRight (· == ']') bs).count ']' ≤ bs.count ']' :=
    List.Sublist.count_le ']' <| List.IsPrefix.sublist <| List.rdropWhile_prefix _ bs
  rw [hdropped, trimRight_closing (ws.getLast?_append_ne fun h => absurd h hws) hafter,
    List.count_append, List.count_append, List.count_singleton_self]
  omega

namespace Place

variable {p : Place}

theorem AfterClosing.exists_eq (h : p.AfterClosing) :
    ∃ as bs after, '[' ∉ as ∧ (∀ c ∈ after, c = ']') ∧ p = ⟨as ++ '[' :: (bs ++ [']']), after⟩ := by
  obtain ⟨before, after⟩ := p
  obtain ⟨hlast, hmem, hafter⟩ := h
  obtain ⟨cs, rfl⟩ := List.getLast?_eq_some_iff.1 hlast
  obtain ⟨as, bs, rfl, has⟩ := List.eq_append_cons_of_mem (show '[' ∈ cs by simpa using hmem)
  exact ⟨as, bs, after, has, hafter, by simp⟩

/-- Blanks after a closing bracket make it a part of an entry. -/
theorem AfterClosing.parse?_filled_ne (h : p.AfterClosing) {ws : Blanks} (hws : ws.text ≠ []) :
    parse? (String.ofList (p.filled ws)) ≠ parse? (String.ofList p.text) := by
  obtain ⟨as, bs, after, has, hafter, rfl⟩ := h.exists_eq
  intro heq
  cases hps : parse? (String.ofList (text ⟨as ++ '[' :: (bs ++ [']']), after⟩)) with
  | none =>
    have hall := (parse?_eq_none_iff _).1 hps
    exact absurd (hall '[' (by simp [text])) (by decide)
  | some ps =>
    have htext : text ⟨as ++ '[' :: (bs ++ [']']), after⟩ = as ++ '[' :: (bs ++ ']' :: after) := by
      simp [text]
    have hfilled : filled ⟨as ++ '[' :: (bs ++ [']']), after⟩ ws =
        as ++ '[' :: (bs ++ [']'] ++ ws.text ++ after) := by
      simp [filled]
    have hcount := (closings_of_parse? hps).symm.trans (closings_of_parse? (heq.trans hps))
    rw [hfilled, htext, sections_append has, sections_append has, Nat.add_left_cancel_iff,
      count_dropFirstComma, count_dropFirstComma] at hcount
    exact absurd hcount (Nat.ne_of_lt (count_trimRight_closing_lt hafter hws))

/-! ### Blanks at many places -/

/-- Blanks at a harmless place make no difference, and none to whether the optional entries have names. -/
theorem parse?_filled {ws : Blanks} (h : ws.text ≠ [] → p.IsOpen ∧ p.IsHarmless) :
    parse? (String.ofList (p.filled ws)) = parse? (String.ofList p.text) ∧
      (NamesOptions p.text → NamesOptions (p.filled ws)) := by
  by_cases hws : ws.text = []
  · simp [filled, text, hws]
  · obtain ⟨hopen, hclosing, hnames⟩ := h hws
    by_cases hcomma : p.BeforeComma
    · exact ⟨(hcomma.parse?_filled_iff hws).2 (hnames hcomma), (hcomma.namesOptions_filled_iff ws).2⟩
    · obtain ⟨hmandatory, hoptional⟩ := entries_filled hopen hclosing hcomma hws
      constructor
      · simp [parse?, allBlank, all_isBlank_filled, hmandatory, hoptional]
      · rw [NamesOptions, NamesOptions, hoptional]
        exact id

/-- An open and harmless place remains one when blanks are put behind it. -/
theorem isOpen_isHarmless_of_subset {before after after' : List Char} {c : Char}
    (h : IsOpen ⟨before, c :: after⟩ ∧ IsHarmless ⟨before, c :: after⟩) (hsubset : after ⊆ after')
    (hclosing : IsDelimiter before c after → IsDelimiter before c after')
    (hnames : NamesOptions (before ++ c :: after) → NamesOptions (before ++ c :: after')) :
    IsOpen ⟨before, c :: after'⟩ ∧ IsHarmless ⟨before, c :: after'⟩ := by
  obtain ⟨hopen, hafter, hcomma⟩ := h
  have hsubset' : c :: after ⊆ c :: after' := List.cons_subset_cons c hsubset
  refine ⟨?_, ?_, ?_⟩
  · rcases hopen with h | h
    · left
      intro d hd
      rcases h d hd with h | h | ⟨rfl, hmem, hall⟩
      · exact .inl h
      · exact .inr (.inl h)
      · exact absurd ⟨hd, List.dropLast_subset _ hmem, hall⟩ hafter
    · right
      rintro _ ⟨⟩
      exact hclosing (h c rfl)
  · rintro ⟨hlast, hmem, hall⟩
    exact hafter ⟨hlast, hmem, fun d hd => hall d (hsubset' hd)⟩
  · rintro ⟨hlast, hmem, hhead⟩
    exact hnames (hcomma ⟨hlast, hmem, hhead⟩)

end Place

/-- The text `after`, with the blanks that `f` puts at each place of the text `before ++ after`. -/
def spaced (f : Place → Blanks) (before : List Char) : List Char → List Char
  | [] => (f ⟨before, []⟩).text
  | c :: after => (f ⟨before, c :: after⟩).text ++ c :: spaced f (before ++ [c]) after

/-- Blanks stand at places of one kind only. -/
def OnlyAt (kind : Place → Prop) (f : Place → Blanks) (t : List Char) : Prop :=
  ∀ p : Place, p.text = t → (f p).text ≠ [] → kind p

theorem subset_spaced (f : Place → Blanks) (before after : List Char) :
    after ⊆ spaced f before after := by
  induction after generalizing before with
  | nil => exact List.nil_subset _
  | cons c after ih =>
    exact List.subset_append_of_subset_right _ (List.cons_subset_cons c (ih _))

section

variable {f : Place → Blanks} {before after : List Char}

/-- There are no blanks among the closing brackets. -/
theorem spaced_eq_of_closing (hf : OnlyAt (¬ ·.AfterClosing) f (before ++ after))
    (hlast : before.getLast? = some ']') (hmem : '[' ∈ before) (hafter : ∀ c ∈ after, c = ']') :
    spaced f before after = after := by
  induction after generalizing before with
  | nil =>
    by_contra hws
    exact hf ⟨before, []⟩ rfl hws ⟨hlast, hmem, hafter⟩
  | cons c after ih =>
    have hws : (f ⟨before, c :: after⟩).text = [] := by
      by_contra hws
      exact hf ⟨before, c :: after⟩ rfl hws ⟨hlast, hmem, hafter⟩
    obtain ⟨rfl, hrest⟩ := List.forall_mem_cons.1 hafter
    rw [List.append_cons] at hf
    rw [spaced, hws, ih hf (by simp) (by simp [hmem]) hrest, List.nil_append]

/-- Blanks at harmless places make no difference. -/
theorem parse?_append_spaced (hf : OnlyAt (fun p => p.IsOpen ∧ p.IsHarmless) f (before ++ after)) :
    parse? (String.ofList (before ++ spaced f before after)) = parse? (String.ofList (before ++ after)) ∧
      (NamesOptions (before ++ after) → NamesOptions (before ++ spaced f before after)) := by
  induction after generalizing before with
  | nil =>
    have hstep := Place.parse?_filled (hf ⟨before, []⟩ rfl)
    rwa [Place.filled, List.append_nil] at hstep
  | cons c after ih =>
    -- the blanks behind `c` first, then those before it
    have hf' : OnlyAt (fun p => p.IsOpen ∧ p.IsHarmless) f (before ++ [c] ++ after) := by
      rwa [← List.append_cons]
    obtain ⟨hparse, hnames⟩ := ih hf'
    rw [← List.append_cons, ← List.append_cons] at hparse hnames
    have hdelimiter : IsDelimiter before c after → IsDelimiter before c (spaced f (before ++ [c]) after) := by
      rintro (h | h | ⟨rfl, hmem, hall⟩)
      · exact .inl h
      · exact .inr (.inl h)
      · rw [spaced_eq_of_closing (fun p hp hws => (hf' p hp hws).2.1) (by simp) (by simp [hmem]) hall]
        exact .inr (.inr ⟨rfl, hmem, hall⟩)
    have hplace (hws : (f ⟨before, c :: after⟩).text ≠ []) :=
      Place.isOpen_isHarmless_of_subset (hf _ rfl hws) (subset_spaced f (before ++ [c]) after) hdelimiter
        hnames
    obtain ⟨hparse', hnames'⟩ := Place.parse?_filled hplace
    rw [Place.filled, List.append_assoc] at hparse' hnames'
    exact ⟨hparse'.trans hparse, fun h => hnames' (hnames h)⟩

end

/-- One space at each place with one of the given numbers of characters before it. -/
def spacesAt (numbers : List Nat) (p : Place) : Blanks :=
  if p.before.length ∈ numbers then ⟨[' '], List.forall_mem_singleton.2 rfl⟩
  else ⟨[], fun _ h => nomatch h⟩

theorem onlyAt_spacesAt {kind : Place → Prop} {t : List Char} {numbers : List Nat}
    (h : ∀ n ∈ numbers, kind ⟨t.take n, t.drop n⟩) : OnlyAt kind (spacesAt numbers) t := by
  rintro p rfl hws
  by_cases hp : p.before.length ∈ numbers
  · simpa [Place.text] using h _ hp
  · simp [spacesAt, hp] at hws

/-- **Blanks beside delimiters.** Blanks at any number of open places of a text make no difference to how it
is read, if none of them follow one of the closing brackets at the end, and none are between the opening
bracket and a comma while an optional entry gets its name from its position. Each of these does make a
difference. -/
theorem parse?_spaced (t : List Char) :
    (∀ f, OnlyAt (fun p => p.IsOpen ∧ p.IsHarmless) f t →
      parse? (String.ofList (spaced f [] t)) = parse? (String.ofList t)) ∧
    ∀ p : Place, p.text = t → p.IsOpen → ∀ ws : Blanks, ws.text ≠ [] →
      (parse? (String.ofList (p.filled ws)) = parse? (String.ofList t) ↔ p.IsHarmless) := by
  constructor
  · intro f hf
    have hspaced := parse?_append_spaced (show OnlyAt _ f ([] ++ t) from hf)
    exact hspaced.1
  · rintro p rfl hopen ws hws
    constructor
    · intro heq
      exact ⟨fun h => h.parse?_filled_ne hws heq, fun h => (h.parse?_filled_iff hws).1 heq⟩
    · intro hharmless
      exact (Place.parse?_filled fun _ => ⟨hopen, hharmless⟩).1

/-- Spaces beside the delimiters of a list, and one that shifts a generated name. -/
theorem parse?_spaced_brackets :
    let t := "Real x,[,Real]".toList
    let p : Place := ⟨"Real x,[".toList, ",Real]".toList⟩
    (OnlyAt (fun p => p.IsOpen ∧ p.IsHarmless) (spacesAt [0, 6, 7, 9, 13]) t ∧
      spaced (spacesAt [0, 6, 7, 9, 13]) [] t = " Real x , [, Real ]".toList ∧
      parse? " Real x , [, Real ]" = parse? (String.ofList t)) ∧
    p.text = t ∧ p.IsOpen ∧ ¬ p.IsHarmless ∧
      parse? (String.ofList (p.filled (spacesAt [8] p))) ≠ parse? (String.ofList t) := by
  intro t p
  have honly : OnlyAt (fun p => p.IsOpen ∧ p.IsHarmless) (spacesAt [0, 6, 7, 9, 13]) t :=
    onlyAt_spacesAt (by decide +kernel)
  have hopen : p.IsOpen := by decide +kernel
  have hharmful : ¬ p.IsHarmless := by decide +kernel
  obtain ⟨hsame, hiff⟩ := parse?_spaced t
  refine ⟨⟨honly, by decide +kernel, ?_⟩, rfl, hopen, hharmful, ?_⟩
  · rw [← hsame _ honly]
    rfl
  · exact fun h => hharmful ((hiff p rfl hopen _ (by decide +kernel)).1 h)

/-- A blank after the last closing bracket leaves the bracket in the name before it. -/
theorem parse?_blank_after_closing :
    ¬ ∀ (t : List Char) (f : Place → Blanks), OnlyAt Place.IsOpen f t →
      parse? (String.ofList (spaced f [] t)) = parse? (String.ofList t) := by
  intro h
  have hend := h "Real x[, Real y]".toList (spacesAt [16]) (onlyAt_spacesAt (by decide +kernel))
  exact absurd hend (by decide +kernel)

end ArgumentList

end ScriptDoc
