import ScriptDoc.Dump.Entry
import ScriptDoc.Proofs.Text.Blank

/-!
# Encoded members in a line

A line may hold several encoded members, and a bracketed text may end in several places.  The one that is
read starts furthest to the left, and of those that start there its brackets close first.

* `Occurrence`: an encoded member with what stands before and after it in a line;
* `Occurrence.IsFirst`: the one that starts furthest to the left and has the shortest brackets;
* `EncodedMember.search?_eq_some`, `EncodedMember.bracketedTarget?_eq_some`: both searches stop at the
  first place that will do;
* `EncodedMember.ofLine?_first`: a line is read as the first occurrence in it, and its member is a whole
  word.
-/

namespace ScriptDoc

open ScriptDoc.Text

namespace EncodedMember

/-! ### Occurrences -/

/-- A word of word characters. -/
structure Word where
  text : List Char
  ne_nil : text ≠ []
  word : ∀ c ∈ text, isWordChar c = true

/-- A number of decimal digits. -/
structure Digits where
  text : List Char
  ne_nil : text ≠ []
  digit : ∀ c ∈ text, isDecimalDigit c = true

/-- What may stand between the member and the equals sign: nothing, or a bracketed text on one line. -/
inductive Brackets where
  | none
  | around (inner : List Char) (oneLine : '\n' ∉ inner)

/-- The text of brackets. -/
def Brackets.text : Brackets → List Char
  | .none => []
  | .around inner _ => '[' :: (inner ++ [']'])

/-- An encoded member in a line. -/
structure Occurrence where
  before : List Char
  member : Word
  brackets : Brackets
  enumName : Word
  number : Digits
  after : List Char

namespace Occurrence

variable (o p : Occurrence)

/-- From the equals sign on. -/
def target : List Char := '=' :: (o.enumName.text ++ '(' :: (o.number.text ++ ')' :: o.after))

/-- What follows the member. -/
def tail : List Char := o.brackets.text ++ o.target

/-- From the member on. -/
def front : List Char := o.member.text ++ o.tail

/-- The line that an occurrence stands in. -/
def text : List Char := o.before ++ o.front

/-- What an occurrence says. -/
def encoded : EncodedMember :=
  ⟨String.ofList o.member.text, String.ofList o.enumName.text, String.ofList o.number.text⟩

/-- The first occurrence of a line: none starts further to the left, and none that starts at the same place
has shorter brackets. -/
structure IsFirst : Prop where
  before_le : ∀ p : Occurrence, p.text = o.text → o.before.length ≤ p.before.length
  brackets_le : ∀ p : Occurrence, p.text = o.text → p.before = o.before →
    o.brackets.text.length ≤ p.brackets.text.length

/-- No word character stands before the member or after it. -/
def IsWholeWord : Prop :=
  (∀ c ∈ o.before.getLast?, isWordChar c = false) ∧ ∀ c ∈ o.tail.head?, isWordChar c = false

theorem front_eq_of_text_eq {o p : Occurrence} (h : p.text = o.text)
    (hlength : p.before.length = o.before.length) : p.before = o.before ∧ p.front = o.front :=
  List.append_inj h hlength

end Occurrence

/-! ### Targets -/

theorem not_isWordChar_open : isWordChar '(' = false := by decide +kernel

theorem not_isWordChar_bracket : isWordChar '[' = false := by decide +kernel

theorem not_isWordChar_equals : isWordChar '=' = false := by decide +kernel

theorem not_isDecimalDigit_close : isDecimalDigit ')' = false := by decide +kernel

theorem target?_target (o : Occurrence) :
    target? o.target = some (String.ofList o.enumName.text, String.ofList o.number.text) := by
  have hopen : ∀ c ∈ ('(' :: (o.number.text ++ ')' :: o.after)).head?, isWordChar c = false := by
    rintro _ ⟨⟩
    exact not_isWordChar_open
  have hclose : ∀ c ∈ (')' :: o.after).head?, isDecimalDigit c = false := by
    rintro _ ⟨⟩
    exact not_isDecimalDigit_close
  obtain ⟨hname, hafterName⟩ := span_append o.enumName.word hopen
  obtain ⟨hnumber, hafterNumber⟩ := span_append o.number.digit hclose
  simp [target?, Occurrence.target, hname, hafterName, hnumber, hafterNumber, o.enumName.ne_nil,
    o.number.ne_nil]

/-- What is read as a target is one. -/
theorem target?_eq_some {cs : List Char} {t : String × String} (h : target? cs = some t) :
    ∃ (name : Word) (number : Digits) (after : List Char),
      cs = '=' :: (name.text ++ '(' :: (number.text ++ ')' :: after)) ∧
        t = (String.ofList name.text, String.ofList number.text) := by
  unfold target? at h
  split at h
  · next r =>
    simp only at h
    split at h
    · next q hq =>
      split at h
      · next after hafter =>
        split at h
        · cases h
        · next hne =>
          cases h
          simp only [Bool.or_eq_true, List.isEmpty_iff, not_or] at hne
          refine ⟨⟨r.takeWhile isWordChar, hne.1, List.all_eq_true.1 List.all_takeWhile⟩,
            ⟨q.takeWhile isDecimalDigit, hne.2, List.all_eq_true.1 List.all_takeWhile⟩, after, ?_, rfl⟩
          rw [← hafter, List.takeWhile_append_dropWhile, ← hq, List.takeWhile_append_dropWhile]
      · cases h
    · cases h
  · cases h

/-! ### Brackets -/

theorem bracketedTarget?_eq_none {cs : List Char} (h : bracketedTarget? cs = none)
    {inner rest : List Char} (hcs : cs = inner ++ ']' :: rest) (hinner : '\n' ∉ inner) :
    target? rest = none := by
  induction cs generalizing inner with
  | nil => simp at hcs
  | cons c cs ih =>
    unfold bracketedTarget? at h
    cases inner with
    | nil =>
      obtain ⟨rfl, rfl⟩ := List.cons.inj hcs
      cases ht : target? cs with
      | none => rfl
      | some t => simp [ht] at h
    | cons d inner =>
      obtain ⟨rfl, hrest⟩ := List.cons.inj hcs
      simp only [List.mem_cons, not_or] at hinner
      refine ih ?_ hrest hinner.2
      split at h
      · next hline => exact absurd (beq_iff_eq.1 hline).symm hinner.1
      · split at h
        · split at h
          · cases h
          · exact h
        · exact h

/-- The brackets close at the first place where a target follows. -/
theorem bracketedTarget?_eq_some {cs : List Char} {t : String × String}
    (h : bracketedTarget? cs = some t) :
    ∃ inner rest, cs = inner ++ ']' :: rest ∧ '\n' ∉ inner ∧ target? rest = some t ∧
      ∀ inner' rest', cs = inner' ++ ']' :: rest' → (target? rest').isSome = true →
        inner.length ≤ inner'.length := by
  induction cs with
  | nil => simp [bracketedTarget?] at h
  | cons c cs ih =>
    by_cases hhere : c = ']' ∧ target? cs = some t
    · obtain ⟨rfl, ht⟩ := hhere
      exact ⟨[], cs, rfl, by simp, ht, fun _ _ _ _ => Nat.zero_le _⟩
    · unfold bracketedTarget? at h
      have hskip : c ≠ '\n' ∧ (c = ']' → target? cs = none) ∧ bracketedTarget? cs = some t := by
        split at h
        · cases h
        · next hline =>
          refine ⟨by simpa using hline, ?_⟩
          split at h
          · next hclose =>
            rw [beq_iff_eq] at hclose
            split at h
            · next ht => exact absurd ⟨hclose, ht.trans h⟩ hhere
            · next ht => exact ⟨fun _ => ht, h⟩
          · next hclose => exact ⟨fun hc => absurd (beq_iff_eq.2 hc) hclose, h⟩
      obtain ⟨hline, hclose, h⟩ := hskip
      obtain ⟨inner, rest, rfl, hinner, ht, hmin⟩ := ih h
      refine ⟨c :: inner, rest, rfl, by simp [Ne.symm hline, hinner], ht, ?_⟩
      intro inner' rest' hcs hsome
      cases inner' with
      | nil =>
        obtain ⟨rfl, hrest⟩ := List.cons.inj hcs
        rw [← hrest, hclose rfl] at hsome
        cases hsome
      | cons d inner' => exact Nat.succ_le_succ (hmin inner' rest' (List.cons.inj hcs).2 hsome)

/-! ### Members -/

/-- After a whole word, what is read at the front depends on the tail alone. -/
theorem front?_append {w : Word} {cs : List Char} (h : ∀ c ∈ cs.head?, isWordChar c = false) :
    front? (w.text ++ cs) = (tail? cs).map fun t => ⟨String.ofList w.text, t.1, t.2⟩ := by
  obtain ⟨hword, hrest⟩ := span_append w.word h
  simp [front?, hword, hrest, w.ne_nil]

theorem Occurrence.not_isWordChar_head_tail (o : Occurrence) :
    ∀ c ∈ o.tail.head?, isWordChar c = false := by
  unfold Occurrence.tail Occurrence.target
  cases o.brackets with
  | none => rintro _ ⟨⟩; exact not_isWordChar_equals
  | around inner _ => rintro _ ⟨⟩; exact not_isWordChar_bracket

/-- Where a member stands, one is read. -/
theorem isSome_front?_front (o : Occurrence) : (front? o.front).isSome = true := by
  have htarget := target?_target o
  rw [Occurrence.front, front?_append o.not_isWordChar_head_tail, Option.isSome_map, Occurrence.tail]
  cases hb : o.brackets with
  | none =>
    rw [Brackets.text, List.nil_append]
    simp only [tail?, Occurrence.target] at htarget ⊢
    simp [htarget]
  | around inner oneLine =>
    have hcs : (Brackets.around inner oneLine).text ++ o.target =
        '[' :: (inner ++ ']' :: o.target) := by simp [Brackets.text]
    rw [hcs, tail?, Option.isSome_iff_ne_none]
    intro hnone
    rw [bracketedTarget?_eq_none hnone rfl oneLine] at htarget
    cases htarget

theorem tail?_eq_some {cs : List Char} {t : String × String} (h : tail? cs = some t) :
    ∃ (b : Brackets) (rest : List Char), cs = b.text ++ rest ∧ target? rest = some t ∧
      ∀ o : Occurrence, o.tail = cs → b.text.length ≤ o.brackets.text.length := by
  unfold tail? at h
  split at h
  · next r =>
    obtain ⟨inner, rest, rfl, hinner, ht, hmin⟩ := bracketedTarget?_eq_some h
    refine ⟨.around inner hinner, rest, by simp [Brackets.text], ht, fun o ho => ?_⟩
    unfold Occurrence.tail at ho
    cases hb : o.brackets with
    | none => rw [hb] at ho; cases ho
    | around inner' _ =>
      rw [hb] at ho
      have hinner' : inner ++ ']' :: rest = inner' ++ ']' :: o.target := by
        simpa [Brackets.text] using ho.symm
      have hle := hmin inner' o.target hinner' (by rw [target?_target]; rfl)
      simpa [Brackets.text] using hle
  · exact ⟨.none, cs, rfl, h, fun _ _ => Nat.zero_le _⟩

/-- What is read at the front stands there, with the shortest brackets. -/
theorem front?_eq_some {cs : List Char} {m : EncodedMember} (h : front? cs = some m)
    (before : List Char) :
    ∃ o : Occurrence, o.before = before ∧ o.front = cs ∧ o.encoded = m ∧
      ∀ p : Occurrence, p.front = cs → o.brackets.text.length ≤ p.brackets.text.length := by
  have hword : ∀ c ∈ cs.takeWhile isWordChar, isWordChar c = true :=
    List.all_eq_true.1 List.all_takeWhile
  unfold front? at h
  simp only at h
  split at h
  · cases h
  · next hne =>
    rw [List.isEmpty_iff] at hne
    obtain ⟨t, ht, rfl⟩ := Option.map_eq_some_iff.1 h
    obtain ⟨b, rest, hdrop, htarget, hmin⟩ := tail?_eq_some ht
    obtain ⟨name, number, after, rfl, rfl⟩ := target?_eq_some htarget
    refine ⟨⟨before, ⟨_, hne, hword⟩, b, name, number, after⟩, rfl, ?_, rfl, fun p hp => hmin p ?_⟩
    · exact (congrArg _ hdrop.symm).trans List.takeWhile_append_dropWhile
    · -- the word of any occurrence ends where the longest run does
      rw [← hp]
      exact (span_append p.member.word p.not_isWordChar_head_tail).2.symm

/-! ### Lines -/

theorem search?_eq_none {cs : List Char} (h : search? cs = none) {before rest : List Char}
    (hcs : cs = before ++ rest) : front? rest = none := by
  induction cs generalizing before with
  | nil =>
    obtain ⟨-, rfl⟩ := List.append_eq_nil_iff.1 hcs.symm
    rfl
  | cons c cs ih =>
    unfold search? at h
    split at h
    · cases h
    · next hfront =>
      cases before with
      | nil =>
        rw [List.nil_append] at hcs
        rw [← hcs, hfront]
      | cons d before => exact ih h (List.cons.inj hcs).2

/-- The search stops at the first place where a member is read. -/
theorem search?_eq_some {cs : List Char} {m : EncodedMember} (h : search? cs = some m) :
    ∃ before rest, cs = before ++ rest ∧ front? rest = some m ∧
      ∀ before' rest', cs = before' ++ rest' → (front? rest').isSome = true →
        before.length ≤ before'.length := by
  induction cs with
  | nil => cases h
  | cons c cs ih =>
    unfold search? at h
    split at h
    · next hfront =>
      cases h
      exact ⟨[], c :: cs, rfl, hfront, fun _ _ _ _ => Nat.zero_le _⟩
    · next hfront =>
      obtain ⟨before, rest, rfl, hrest, hmin⟩ := ih h
      refine ⟨c :: before, rest, rfl, hrest, fun before' rest' hcs hsome => ?_⟩
      cases before' with
      | nil =>
        rw [List.nil_append] at hcs
        rw [← hcs, hfront] at hsome
        cases hsome
      | cons d before' =>
        exact Nat.succ_le_succ (hmin before' rest' (List.cons.inj hcs).2 hsome)

/-- What is read of a line is its first occurrence. -/
theorem exists_isFirst_of_search? {cs : List Char} {m : EncodedMember} (h : search? cs = some m) :
    ∃ o : Occurrence, o.text = cs ∧ o.IsFirst ∧ o.encoded = m := by
  obtain ⟨before, rest, rfl, hfront, hleft⟩ := search?_eq_some h
  obtain ⟨o, rfl, rfl, hm, hshort⟩ := front?_eq_some hfront before
  refine ⟨o, rfl, ⟨fun p hp => ?_, fun p hp hbefore => ?_⟩, hm⟩
  · exact hleft p.before p.front hp.symm (isSome_front?_front p)
  · exact hshort p (Occurrence.front_eq_of_text_eq hp (congrArg _ hbefore)).2

namespace Occurrence

/-- Two occurrences at one place with brackets of one length say the same. -/
theorem encoded_eq_of_front_eq {o p : Occurrence} (h : p.front = o.front)
    (hlength : p.brackets.text.length = o.brackets.text.length) : p.encoded = o.encoded := by
  have hspan (q : Occurrence) : q.front.takeWhile isWordChar = q.member.text ∧
      q.front.dropWhile isWordChar = q.tail :=
    span_append q.member.word q.not_isWordChar_head_tail
  have hmember : p.member.text = o.member.text := by rw [← (hspan p).1, h, (hspan o).1]
  have htail : p.tail = o.tail := by rw [← (hspan p).2, h, (hspan o).2]
  have htarget : target? p.target = target? o.target := by rw [(List.append_inj htail hlength).2]
  rw [target?_target, target?_target] at htarget
  obtain ⟨hname, hnumber⟩ := Prod.mk.inj (Option.some.inj htarget)
  rw [encoded, encoded, hmember, hname, hnumber]

/-- The first occurrence of a line says the same, however the line is cut. -/
theorem IsFirst.encoded_eq {o p : Occurrence} (hp : p.IsFirst) (ho : o.IsFirst)
    (h : p.text = o.text) : p.encoded = o.encoded := by
  have hlength : p.before.length = o.before.length :=
    Nat.le_antisymm (hp.before_le o h.symm) (ho.before_le p h)
  obtain ⟨hbefore, hfront⟩ := front_eq_of_text_eq h hlength
  refine encoded_eq_of_front_eq hfront (Nat.le_antisymm ?_ ?_)
  · exact hp.brackets_le o h.symm hbefore.symm
  · exact ho.brackets_le p h hbefore

/-- The first occurrence starts with its word: with a word character before it, a longer word would start
further to the left. -/
theorem IsFirst.isWholeWord {o : Occurrence} (h : o.IsFirst) : o.IsWholeWord := by
  refine ⟨fun c hc => ?_, o.not_isWordChar_head_tail⟩
  obtain ⟨before, hbefore⟩ := List.getLast?_eq_some_iff.1 hc
  by_contra hword
  rw [Bool.not_eq_false] at hword
  let p : Occurrence :=
    { o with
      before
      member := ⟨c :: o.member.text, by simp, List.forall_mem_cons.2 ⟨hword, o.member.word⟩⟩ }
  have htext : p.text = o.text := by simp [p, text, front, tail, target, hbefore]
  have hle := h.before_le p htext
  simp only [p, hbefore, List.length_append, List.length_singleton] at hle
  omega

end Occurrence

/-- **A line is read as the first encoded member in it.** Nothing is read only if there is none; else it is
the member that starts furthest to the left, with the brackets that close first, and this member is a whole
word. -/
theorem ofLine?_first (line : String) :
    (ofLine? line = none ↔ ¬ ∃ o : Occurrence, o.text = line.toList) ∧
      (∀ m, ofLine? line = some m ↔
        ∃ o : Occurrence, o.text = line.toList ∧ o.IsFirst ∧ o.encoded = m) ∧
      ∀ o : Occurrence, o.text = line.toList → o.IsFirst → o.IsWholeWord := by
  have hnone (h : ofLine? line = none) : ¬ ∃ o : Occurrence, o.text = line.toList := by
    rintro ⟨o, ho⟩
    have hsome := isSome_front?_front o
    rw [search?_eq_none h ho.symm] at hsome
    cases hsome
  have hsome (m : EncodedMember) (h : ofLine? line = some m) :
      ∃ o : Occurrence, o.text = line.toList ∧ o.IsFirst ∧ o.encoded = m :=
    exists_isFirst_of_search? h
  refine ⟨⟨hnone, fun h => ?_⟩, fun m => ⟨hsome m, ?_⟩, fun o _ h => h.isWholeWord⟩
  · cases hread : ofLine? line with
    | none => rfl
    | some m =>
      obtain ⟨o, ho, -⟩ := hsome m hread
      exact absurd ⟨o, ho⟩ h
  · rintro ⟨o, ho, hfirst, rfl⟩
    cases hread : ofLine? line with
    | none => exact absurd ⟨o, ho⟩ (hnone hread)
    | some m =>
      obtain ⟨p, hp, hpfirst, rfl⟩ := hsome m hread
      rw [hpfirst.encoded_eq hfirst (hp.trans ho.symm)]

/-- A bracketed text may itself hold brackets and encoded members. -/
theorem ofLine?_first_nested :
    ∃ o : Occurrence, o.text = "..RT[A=B(1)]x]=E(22)=F(3)".toList ∧ o.IsFirst ∧
      o.encoded = ⟨"RT", "E", "22"⟩ ∧ o.IsWholeWord := by
  obtain ⟨-, hsome, hword⟩ := ofLine?_first "..RT[A=B(1)]x]=E(22)=F(3)"
  obtain ⟨o, ho, hfirst, hm⟩ := (hsome ⟨"RT", "E", "22"⟩).1 (by decide +kernel)
  exact ⟨o, ho, hfirst, hm, hword o ho hfirst⟩

end EncodedMember

end ScriptDoc
