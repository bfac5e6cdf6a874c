import Mathlib.Data.List.DropRight
import ScriptDoc.Text.Blank
import ScriptDoc.Text.Lines

/-!
# Trimmed texts

* `span_append`: where a run of characters of one class ends;
* `trimRight_append_of_forall`, `trimRight_append_of_ne_nil`: the end of two texts, by whether anything is
  left of the second;
* `trim_append_of_blank`: blanks at the end make no difference to what is left, and so neither does
  the end of a line (`trimmed_chomp`);
* `trim_padded`: a text that neither starts nor ends with a blank is what is left of it with blanks
  around it;
* `isBlank_of_forall_mem_trim`, `eq_nil_of_trim_eq_append`: what is left is not blank, unless it is
  empty, and does not end in a blank;
* `trim_isInfix`, `isTrimmed_trim`: it is a part of the text, and has no blank at either end.
-/

namespace ScriptDoc.Text

/-- A run of a class ends where the next character is of another class. -/
theorem span_append {p : Char → Bool} {as bs : List Char} (has : ∀ c ∈ as, p c = true)
    (hbs : ∀ c ∈ bs.head?, p c = false) :
    (as ++ bs).takeWhile p = as ∧ (as ++ bs).dropWhile p = bs := by
  rw [List.takeWhile_append_of_pos has, List.dropWhile_append_of_pos has]
  cases bs with
  | nil => simp
  | cons b bs => simp [hbs b rfl]

theorem trimRight_append_of_forall {p : Char → Bool} {ws : List Char}
    (h : ∀ c ∈ ws, p c = true) (cs : List Char) : trimRight p (cs ++ ws) = trimRight p cs := by
  have hr : ∀ c ∈ ws.reverse, p c = true := fun c hc => h c (List.mem_reverse.1 hc)
  rw [trimRight, List.reverse_append, List.dropWhile_append_of_pos hr, trimRight]

theorem trim_append_of_blank {ws : List Char} (h : ∀ c ∈ ws, isBlank c = true) (cs : List Char) :
    trim (cs ++ ws) = trim cs := by
  unfold trim trimLeft
  rw [List.dropWhile_append]
  split
  · next hcs =>
    -- nothing but blanks, with or without those at the end
    rw [List.isEmpty_iff.1 hcs, List.dropWhile_eq_nil_iff.2 h]
  · exact trimRight_append_of_forall h _

theorem trimRight_eq_self {p : Char → Bool} {cs : List Char}
    (h : ∀ c ∈ cs.getLast?, p c = false) : trimRight p cs = cs :=
  List.rdropWhile_eq_self_iff.2 fun hne => by
    simpa using h (cs.getLast hne) (List.getLast?_eq_some_getLast hne)

theorem trimRight_append_of_ne_nil {p : Char → Bool} {bs : List Char} (h : trimRight p bs ≠ [])
    (as : List Char) : trimRight p (as ++ bs) = as ++ trimRight p bs := by
  obtain ⟨ws, hbs, hws⟩ := trimRight_append_eq p bs
  have hlast : ¬ p ((trimRight p bs).getLast h) = true := List.rdropWhile_last_not p bs h
  conv_lhs => rw [hbs, ← List.append_assoc, trimRight_append_of_forall hws]
  refine trimRight_eq_self fun c hc => ?_
  rw [List.getLast?_append_of_ne_nil _ h, List.getLast?_eq_some_getLast h] at hc
  cases hc
  simpa using hlast

theorem forall_of_trimRight_eq_nil {p : Char → Bool} {cs : List Char} (h : trimRight p cs = []) :
    ∀ c ∈ cs, p c = true := by
  obtain ⟨ws, hcs, hws⟩ := trimRight_append_eq p cs
  rw [h, List.nil_append] at hcs
  exact hcs ▸ hws

theorem trimRight_append_cons {p : Char → Bool} {c : Char} (hc : p c = false) (as bs : List Char) :
    trimRight p (as ++ c :: bs) = as ++ c :: trimRight p bs := by
  by_cases hbs : trimRight p bs = []
  · rw [List.append_cons, trimRight_append_of_forall (forall_of_trimRight_eq_nil hbs), hbs,
      trimRight_eq_self]
    simpa using hc
  · rw [List.append_cons, trimRight_append_of_ne_nil hbs, ← List.append_cons]

theorem trim_padded {before cs after : List Char} (hbefore : ∀ c ∈ before, isBlank c = true)
    (hafter : ∀ c ∈ after, isBlank c = true) (hhead : ∀ c ∈ cs.head?, isBlank c = false)
    (hlast : ∀ c ∈ cs.getLast?, isBlank c = false) : trim (before ++ cs ++ after) = cs := by
  have hstart : cs.dropWhile isBlank = cs := by
    cases cs with
    | nil => rfl
    | cons c cs => rw [List.dropWhile_cons_of_neg (by simp [hhead c rfl])]
  rw [trim_append_of_blank hafter, trim, trimLeft, List.dropWhile_append_of_pos hbefore, hstart,
    trimRight_eq_self hlast]

theorem trimmed_of_allBlank {s : String} (h : allBlank s = true) : trimmed s = "" := by
  rw [trimmed, trim, trimLeft, List.dropWhile_eq_nil_iff.2 (List.all_eq_true.1 h)]
  rfl

theorem isBlank_of_isNewline {c : Char} (h : isNewline c = true) : isBlank c = true := by
  rcases Bool.or_eq_true_iff.1 h with hc | hc
  · rw [beq_iff_eq.1 hc]
    decide
  · rw [beq_iff_eq.1 hc]
    decide

theorem trimmed_chomp (s : String) : trimmed (chomp s) = trimmed s := by
  obtain ⟨ws, hs, hws⟩ := trimRight_append_eq isNewline s.toList
  have hblank : ∀ c ∈ ws, isBlank c = true := fun c hc => isBlank_of_isNewline (hws c hc)
  have hchomp : (chomp s).toList = trimRight isNewline s.toList := by
    rw [chomp, String.toList_ofList, trimRight]
  rw [trimmed, hchomp, ← trim_append_of_blank hblank, ← hs, trimmed]

/-- A text is blank if nothing but blanks is left of it. -/
theorem isBlank_of_forall_mem_trim {cs : List Char} (h : ∀ c ∈ trim cs, isBlank c = true) :
    ∀ c ∈ cs, isBlank c = true := by
  obtain ⟨ws, hws, hblank⟩ := trimRight_append_eq isBlank (trimLeft isBlank cs)
  intro c hc
  rw [← List.takeWhile_append_dropWhile (p := isBlank) (l := cs), List.mem_append] at hc
  rcases hc with hc | hc
  · exact List.all_eq_true.1 List.all_takeWhile c hc
  · rw [show cs.dropWhile isBlank = trim cs ++ ws from hws, List.mem_append] at hc
    exact hc.elim (h c) (hblank c)

theorem eq_nil_of_trim_eq_append {cs as ws : List Char} (h : trim cs = as ++ ws)
    (hws : ∀ c ∈ ws, isBlank c = true) : ws = [] := by
  by_contra hne
  have hne' : trim cs ≠ [] := by
    rw [h]
    exact List.append_ne_nil_of_right_ne_nil as hne
  have hlast : ¬ isBlank ((trim cs).getLast hne') = true :=
    List.rdropWhile_last_not isBlank (trimLeft isBlank cs) hne'
  refine hlast (hws _ ?_)
  simp only [h, List.getLast_append_of_ne_nil _ hne]
  exact List.getLast_mem hne

/-! ### What is left -/

/-- A text that neither starts nor ends with a blank character. -/
structure IsTrimmed (cs : List Char) : Prop where
  head : ∀ c ∈ cs.head?, isBlank c = false
  last : ∀ c ∈ cs.getLast?, isBlank c = false

theorem trim_isInfix (cs : List Char) : trim cs <:+: cs :=
  (List.rdropWhile_prefix isBlank _).isInfix.trans (List.dropWhile_suffix isBlank).isInfix

theorem isTrimmed_trim (cs : List Char) : IsTrimmed (trim cs) where
  head c hc := by
    obtain ⟨ws, hws, -⟩ := trimRight_append_eq isBlank (trimLeft isBlank cs)
    have hleft : (cs.dropWhile isBlank).head? = some c := by
      rw [show cs.dropWhile isBlank = trim cs ++ ws from hws, List.head?_append, hc]
      rfl
    simpa [hleft] using List.head?_dropWhile_not isBlank cs
  last c hc := by
    have hne : trim cs ≠ [] := by
      intro h
      simp [h] at hc
    rw [List.getLast?_eq_some_getLast hne] at hc
    cases hc
    have hlast : ¬ isBlank ((trim cs).getLast hne) = true :=
      List.rdropWhile_last_not isBlank (trimLeft isBlank cs) hne
    simpa using hlast

end ScriptDoc.Text
