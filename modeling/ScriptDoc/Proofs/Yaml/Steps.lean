import Mathlib.Data.List.Chain
import ScriptDoc.Proofs.Yaml.Quoted
import ScriptDoc.Yaml.Lexer

/-!
# Steps of the lexer

What the lexer does at a bracket, a comma, a text in quotes, a key and a truth value, where no block
collection is open.  Each step takes some characters and adds the tokens they stand for; the possible keys
that it gives up on the way need not come, so giving them up is no error.

* `Consecutive`: places that follow one another, which tells how far a key is from its colon;
* `Lexer.Calm`: states without block collections and without keys that have to come;
* `Lexer.leads_of_next`: reading the next token is one step;
* `Lexer.Reads`: steps that add tokens, and `Lexer.Reads.trans`, which puts them together;
* `Lexer.reads_open`, `Lexer.reads_close`, `Lexer.reads_comma`, `Lexer.reads_text`, `Lexer.reads_key`,
  `Lexer.reads_bool`: the single tokens.
-/

namespace ScriptDoc.Yaml

open ScriptDoc.Text

/-! ### Characters that follow one another -/

/-- Places that follow one another: one index after the other, on one line until a line ends. -/
def Consecutive (s : List Spot) : Prop :=
  s.IsChain fun p q => q.index = p.index + 1 ∧ (isBreak p.char = false → q.line = p.line)

theorem locateFrom_cons {c : Char} (hc : c ≠ '\r') (index line column : Nat) (cs : List Char) :
    ∃ column', locateFrom index line column (c :: cs) = ⟨unifiedBreak c, index, line, column⟩ ::
      locateFrom (index + 1) (if isBreak (unifiedBreak c) then line + 1 else line) column' cs := by
  rw [locateFrom]
  · cases hbreak : isBreak (unifiedBreak c) with
    | true => exact ⟨0, by simp⟩
    | false =>
      have hself : unifiedBreak c = c := by
        unfold unifiedBreak at hbreak ⊢
        split at hbreak
        · cases hbreak
        · rename_i h
          rw [if_neg h]
      exact ⟨_, by simp only [Bool.false_eq_true, if_false, hself]; rfl⟩
  · rintro _ rfl _
    exact hc rfl

theorem consecutive_locateFrom {cs : List Char} (h : '\r' ∉ cs) (index line column : Nat) :
    Consecutive (locateFrom index line column cs) := by
  induction cs generalizing index line column with
  | nil => exact .nil
  | cons c cs ih =>
    rw [List.mem_cons, not_or] at h
    obtain ⟨column₁, h₁⟩ := locateFrom_cons (Ne.symm h.1) index line column cs
    rw [h₁]
    cases cs with
    | nil => exact .singleton _
    | cons d cs =>
      have ih := ih h.2 (index + 1) (if isBreak (unifiedBreak c) then line + 1 else line) column₁
      rw [List.mem_cons, not_or] at h
      obtain ⟨column₂, h₂⟩ := locateFrom_cons (Ne.symm h.2.1) (index + 1)
        (if isBreak (unifiedBreak c) then line + 1 else line) column₁ cs
      rw [h₂] at ih ⊢
      refine .cons_cons ⟨rfl, fun hbreak => ?_⟩ ih
      simp only [hbreak, Bool.false_eq_true, if_false]

theorem chars_locateFrom {cs : List Char} (h : ∀ c ∈ cs, c ≠ '\r' ∧ c ≠ '\u0085')
    (index line column : Nat) : chars (locateFrom index line column cs) = cs := by
  induction cs generalizing index line column with
  | nil => rfl
  | cons c cs ih =>
    obtain ⟨hreturn, hnext⟩ := h c List.mem_cons_self
    obtain ⟨column', h'⟩ := locateFrom_cons hreturn index line column cs
    have hself : unifiedBreak c = c := by simp [unifiedBreak, hreturn, hnext]
    have ih := ih (fun d hd => h d (List.mem_cons_of_mem c hd))
    rw [h', chars, List.map_cons, ← chars, ih, hself]

/-- On one line the index grows by one with each character. -/
theorem Consecutive.on_line {p q : Spot} {s rest : List Spot} (h : Consecutive (p :: (s ++ q :: rest)))
    (hp : isBreak p.char = false) (hs : ∀ x ∈ s, isBreak x.char = false) :
    q.line = p.line ∧ q.index = p.index + s.length + 1 := by
  induction s generalizing p with
  | nil =>
    obtain ⟨⟨hindex, hline⟩, -⟩ := List.isChain_cons_cons.1 h
    exact ⟨hline hp, hindex⟩
  | cons x s ih =>
    obtain ⟨⟨hindex, hline⟩, h⟩ := List.isChain_cons_cons.1 h
    rw [List.forall_mem_cons] at hs
    obtain ⟨hline', hindex'⟩ := ih h hs.1 hs.2
    refine ⟨hline'.trans (hline hp), ?_⟩
    rw [List.length_cons]
    omega

theorem Consecutive.right {s t : List Spot} (h : Consecutive (s ++ t)) : Consecutive t :=
  List.IsChain.right_of_append h

/-! ### Steps of the lexer -/

/-- Blanks and line feeds before a token. -/
def Blanks (s : List Spot) : Prop := ∀ p ∈ s, p.char = ' ' ∨ p.char = '\n'

theorem blanks_nil : Blanks [] := List.forall_mem_nil _

namespace Lexer

variable {l l' m : Lexer} {p : Spot} {rest : List Spot}

/-- Whether a token starts with a character: it is no blank, ends no line and starts no comment. -/
def startsToken (c : Char) : Bool := c != ' ' && c != '\n' && c != '#' && !isLineSeparator c

theorem skipBlank_append {s : List Spot} (h : Blanks s) (t : List Spot) :
    skipBlank (s ++ t) = ((s.any fun x => x.char == '\n') || (skipBlank t).1, (skipBlank t).2) := by
  induction s with
  | nil => simp
  | cons x s ih =>
    rw [Blanks, List.forall_mem_cons] at h
    rw [List.cons_append, skipBlank]
    rcases h.1 with hx | hx
    · simp [hx, ih h.2]
    · simp [hx, isBreak, ih h.2]

theorem skipBlank_of_startsToken (hp : startsToken p.char = true) (rest : List Spot) :
    skipBlank (p :: rest) = (false, p :: rest) := by
  simp only [startsToken, isLineSeparator, Bool.and_eq_true, bne_iff_ne, Bool.not_eq_true',
    Bool.or_eq_false_iff, beq_eq_false_iff_ne] at hp
  obtain ⟨⟨⟨hspace, hfeed⟩, hhash⟩, hline, hparagraph⟩ := hp
  simp [skipBlank, isBreak, hspace, hfeed, hhash, hline, hparagraph]

/-- No block collection is open, and no possible key is one that has to come. -/
structure Calm (l : Lexer) : Prop where
  keys : ∀ k, some k ∈ l.keys → k.required = false
  columns : l.columns = []
  nonempty : l.keys ≠ []

/-- Other keys, of which none has to come either. -/
theorem Calm.of_keys {keys : List (Option PossibleKey)} (h : l.Calm)
    (hkeys : ∀ k, some k ∈ keys → k.required = false) (hlength : keys.length = l.keys.length) :
    Calm { l with keys } where
  keys := hkeys
  columns := h.columns
  nonempty := by
    rw [← List.length_pos_iff] at *
    rw [hlength]
    exact List.length_pos_iff.2 h.nonempty

/-- The keys that can still be announced at a place. -/
def freshKeys (s : List Spot) (keys : List (Option PossibleKey)) : List (Option PossibleKey) :=
  match s with
  | [] => keys
  | p :: _ => keys.map fun k => k.filter (!isStale p ·)

theorem length_freshKeys (s : List Spot) (keys : List (Option PossibleKey)) :
    (freshKeys s keys).length = keys.length := by
  cases s with
  | nil => rfl
  | cons p s => exact List.length_map _

theorem mem_of_mem_freshKeys {s : List Spot} {keys : List (Option PossibleKey)} {k : PossibleKey}
    (h : some k ∈ freshKeys s keys) : some k ∈ keys := by
  cases s with
  | nil => exact h
  | cons p s =>
    obtain ⟨k', hk', heq⟩ := List.mem_map.1 h
    obtain ⟨rfl, -⟩ := Option.filter_eq_some_iff.1 heq
    exact hk'

theorem mapM_eq_ok {α β ε : Type} {f : α → Except ε β} {g : α → β} {as : List α}
    (h : ∀ a ∈ as, f a = .ok (g a)) : as.mapM f = .ok (as.map g) := by
  induction as with
  | nil => rfl
  | cons a as ih =>
    rw [List.forall_mem_cons] at h
    rw [List.mapM_cons, h.1, ih h.2]
    rfl

theorem dropStale_eq (h : l.Calm) : l.dropStale = .ok { l with keys := freshKeys l.rest l.keys } := by
  obtain ⟨rest, tokens, columns, keys, keyAllowed⟩ := l
  cases rest with
  | nil => rfl
  | cons p rest =>
    simp only [dropStale]
    rw [mapM_eq_ok (g := fun k : Option PossibleKey => k.filter (!isStale p ·))]
    · rfl
    · rintro (_ | k) hk
      · rfl
      · have hk := h.keys k hk
        cases hstale : isStale p k <;> simp [hstale, giveUp, hk, Option.filter]

/-- The next token starts at `p`. Outside of all brackets no blanks stand before it. -/
structure StandsAt (l : Lexer) (p : Spot) (rest : List Spot) : Prop where
  starts : startsToken p.char = true
  ahead : ∃ s, Blanks s ∧ l.rest = s ++ p :: rest ∧ (l.inFlow = true ∨ s = [])

theorem prepare_eq (h : l.Calm) (hat : l.StandsAt p rest) :
    l.prepare = .ok { l with rest := p :: rest, keys := freshKeys (p :: rest) l.keys } := by
  obtain ⟨hp, s, hs, hrest, hflow⟩ := hat
  have hallowed : (l.keyAllowed || (s.any (fun x => x.char == '\n') && !l.inFlow)) = l.keyAllowed := by
    rcases hflow with hflow | rfl
    · simp [hflow]
    · simp
  rw [prepare, hrest, skipBlank_append hs, skipBlank_of_startsToken hp]
  simp only [Bool.or_false, hallowed]
  rw [dropStale_eq (l := { l with rest := p :: rest }) ⟨h.keys, h.columns, h.nonempty⟩]
  simp only [bind, Except.bind, pure, Except.pure, closeBlocks, h.columns]
  split <;> simp

/-- Some steps lead from one state to another, and take a character each. -/
def Leads (l l' : Lexer) : Prop :=
  ∃ n, n + l'.rest.length ≤ l.rest.length ∧ ∀ fuel, run (n + fuel) l = run fuel l'

theorem Leads.trans {l₁ l₂ l₃ : Lexer} (h : l₁.Leads l₂) (h' : l₂.Leads l₃) : l₁.Leads l₃ := by
  obtain ⟨n, hn, hrun⟩ := h
  obtain ⟨n', hn', hrun'⟩ := h'
  refine ⟨n + n', by omega, fun fuel => ?_⟩
  rw [Nat.add_assoc, hrun, hrun']

/-- The lexer at its next token: some of its possible keys are given up. -/
def arrive (l : Lexer) (p : Spot) (rest : List Spot) : Lexer :=
  { l with rest := p :: rest, keys := freshKeys (p :: rest) (freshKeys l.rest l.keys) }

theorem length_keys_arrive (l : Lexer) (p : Spot) (rest : List Spot) :
    (l.arrive p rest).keys.length = l.keys.length := by
  rw [arrive, length_freshKeys, length_freshKeys]

theorem Calm.arrive (h : l.Calm) (p : Spot) (rest : List Spot) : (l.arrive p rest).Calm where
  keys k hk := by
    have hk : some k ∈ freshKeys (p :: rest) (freshKeys l.rest l.keys) := hk
    exact h.keys k (mem_of_mem_freshKeys (mem_of_mem_freshKeys hk))
  columns := h.columns
  nonempty := by
    rw [← List.length_pos_iff, length_keys_arrive]
    exact List.length_pos_iff.2 h.nonempty

/-- Reading the next token is a step. -/
theorem leads_of_next (h : l.Calm) (hat : l.StandsAt p rest)
    (hnext : next p rest (l.arrive p rest) = .ok l') (hlength : l'.rest.length ≤ rest.length) :
    l.Leads l' := by
  have hfresh : Calm { l with keys := freshKeys l.rest l.keys } :=
    h.of_keys (fun k hk => h.keys k (mem_of_mem_freshKeys hk)) (length_freshKeys _ _)
  have hat' : StandsAt { l with keys := freshKeys l.rest l.keys } p rest := by
    obtain ⟨hp, s, hs, hrest, hflow⟩ := hat
    refine ⟨hp, s, hs, hrest, ?_⟩
    rwa [inFlow, length_freshKeys]
  have hlonger : rest.length + 1 ≤ l.rest.length := by
    obtain ⟨-, s, -, hrest, -⟩ := hat
    rw [hrest, List.length_append, List.length_cons]
    omega
  have hadvance : advance? { l with keys := freshKeys l.rest l.keys } = .ok (some l') := by
    rw [advance?, prepare_eq hfresh hat']
    simp only [arrive] at hnext
    simp only [bind, Except.bind, hnext, pure, Except.pure]
  refine ⟨1, by omega, fun fuel => ?_⟩
  rw [Nat.add_comm, run, dropStale_eq h]
  simp only [hadvance]

/-! ### Single tokens -/

/-- Steps that add some tokens to those so far and lead to what follows, but for blanks at its front. -/
structure Reads (l : Lexer) (added : List Token) (rest : List Spot) (depth : Nat) (l' : Lexer) : Prop where
  leads : l.Leads l'
  tokens : l'.tokens = added.reverse ++ l.tokens
  ahead : ∃ s, Blanks s ∧ rest = s ++ l'.rest
  depth : l'.keys.length = depth
  calm : l'.Calm

theorem Reads.trans {l₁ l₂ l₃ : Lexer} {added₁ added₂ : List Token} {rest₁ rest₂ : List Spot}
    {depth₁ depth₂ : Nat} (h : l₁.Reads added₁ rest₁ depth₁ l₂) (h' : l₂.Reads added₂ rest₂ depth₂ l₃) :
    l₁.Reads (added₁ ++ added₂) rest₂ depth₂ l₃ where
  leads := h.leads.trans h'.leads
  tokens := by rw [h'.tokens, h.tokens, List.reverse_append, List.append_assoc]
  ahead := h'.ahead
  depth := h'.depth
  calm := h'.calm

theorem blanks_suffix {blanks blanks' s : List Spot} (h : Blanks blanks) (h' : Blanks blanks')
    (hp : startsToken p.char = true) (heq : blanks ++ p :: rest = blanks' ++ s) :
    ∃ blanks, Blanks blanks ∧ s = blanks ++ p :: rest := by
  obtain ⟨t, ht, hs⟩ | ⟨t, rfl, hs⟩ := List.append_eq_append_iff.1 heq
  · -- the blanks that were passed do not hold the start of a token
    cases t with
    | nil => exact ⟨[], blanks_nil, hs.symm⟩
    | cons x t =>
      rw [List.cons_append, List.cons.injEq] at hs
      have hx := h' x (by rw [ht]; simp)
      rw [← hs.1] at hx
      rcases hx with hx | hx <;> rw [hx] at hp <;> exact absurd hp (by decide)
  · exact ⟨t, fun x hx => h x (List.mem_append_right _ hx), hs⟩

/-- What stands behind the tokens that were read is next. -/
theorem Reads.standsAt {added : List Token} (blanks : List Spot) {depth : Nat}
    (h : l.Reads added (blanks ++ p :: rest) depth l') (hblanks : Blanks blanks)
    (hp : startsToken p.char = true) (hdepth : 1 < depth) : l'.StandsAt p rest := by
  obtain ⟨s, hs, heq⟩ := h.ahead
  obtain ⟨blanks', hblanks', hrest⟩ := blanks_suffix hblanks hs hp heq
  refine ⟨hp, blanks', hblanks', hrest, .inl ?_⟩
  rw [inFlow, h.depth]
  simpa using hdepth

theorem forgetKey_eq (h : l.Calm) : l.forgetKey = .ok { l with keys := none :: l.keys.drop 1 } := by
  obtain ⟨rest, tokens, columns, keys, keyAllowed⟩ := l
  cases keys with
  | nil => exact absurd rfl h.nonempty
  | cons k keys =>
    cases k with
    | none => rfl
    | some k =>
      have hk := h.keys k List.mem_cons_self
      simp [forgetKey, giveUp, hk, Except.map]

/-- The key that may start at a place. -/
def keyHere (l : Lexer) (p : Spot) : PossibleKey := ⟨l.tokens.length, false, p.index, p.line, p.column⟩

theorem rememberKey_ok (h : l.Calm) (p : Spot) :
    ∃ keys, l.rememberKey p = .ok { l with keys } ∧ (∀ k, some k ∈ keys → k.required = false) ∧
      keys.length = l.keys.length ∧ (l.keyAllowed = true → keys.head? = some (some (l.keyHere p))) := by
  obtain ⟨rest, tokens, columns, keys, keyAllowed⟩ := l
  obtain rfl : columns = [] := h.columns
  cases keyAllowed with
  | false => exact ⟨keys, rfl, h.keys, rfl, nofun⟩
  | true =>
    refine ⟨some (keyHere ⟨rest, tokens, [], keys, true⟩ p) :: keys.drop 1, ?_, ?_, ?_, fun _ => rfl⟩
    · simp [rememberKey, forgetKey_eq h, Except.map, keyHere]
    · rintro k hk
      rcases List.mem_cons.1 hk with hk | hk
      · cases hk
        rfl
      · exact h.keys k (List.mem_of_mem_drop hk)
    · have : 0 < keys.length := List.length_pos_iff.2 h.nonempty
      simp only [List.length_cons, List.length_drop]
      omega

theorem outerToken?_eq_none (hp : p.char ≠ '%' ∧ p.char ≠ '-' ∧ p.char ≠ '.') (h : l.rest = p :: rest) :
    l.outerToken? p rest = none := by
  have hword {mark : Char} (hmark : p.char ≠ mark) :
      startsWithWord [mark, mark, mark] (p :: rest) = false := by
    rw [← Bool.not_eq_true]
    intro hs
    obtain ⟨_, _, ⟨⟩, heq, -⟩ := of_startsWithWord_cons hs
    exact hmark heq
  simp [outerToken?, h, hp.1, hword hp.2.1, hword hp.2.2]

theorem next_of_structure {r : Except Error Lexer} (hp : p.char ≠ '%' ∧ p.char ≠ '-' ∧ p.char ≠ '.')
    (h : l.rest = p :: rest) (hr : l.structureToken? p rest = some r) : l.next p rest = r := by
  rw [next, outerToken?_eq_none hp h, hr]
  rfl

/-- An opening bracket. -/
theorem reads_open {t : Token} (h : l.Calm) (hat : l.StandsAt p rest)
    (ht : p.char = '[' ∧ t = .flowSequenceStart ∨ p.char = '\x7b' ∧ t = .flowMappingStart) :
    ∃ l', l.Reads [t] rest (l.keys.length + 1) l' ∧ l'.keyAllowed = true ∧ l'.rest = rest := by
  have hp : p.char ≠ '%' ∧ p.char ≠ '-' ∧ p.char ≠ '.' := by
    rcases ht with ⟨hp, -⟩ | ⟨hp, -⟩ <;> rw [hp] <;> decide
  have hstructure : (l.arrive p rest).structureToken? p rest
      = some ((l.arrive p rest).openFlow t p rest) := by
    rcases ht with ⟨hp, rfl⟩ | ⟨hp, rfl⟩ <;> simp [structureToken?, hp]
  obtain ⟨keys, hremember, hkeys, hlength, -⟩ := rememberKey_ok (h.arrive p rest) p
  have hnext := next_of_structure hp rfl hstructure
  rw [openFlow, hremember] at hnext
  refine ⟨_, ⟨leads_of_next h hat hnext (Nat.le_refl _), rfl, ⟨[], blanks_nil, rfl⟩, ?_, ?_⟩, rfl, rfl⟩
  · rw [List.length_cons, hlength, length_keys_arrive]
  · exact ⟨by simpa using hkeys, h.columns, List.cons_ne_nil _ _⟩

/-- A closing bracket. -/
theorem reads_close {t : Token} (h : l.Calm) (hat : l.StandsAt p rest) (hflow : 1 < l.keys.length)
    (ht : p.char = ']' ∧ t = .flowSequenceEnd ∨ p.char = '\x7d' ∧ t = .flowMappingEnd) :
    ∃ l', l.Reads [t] rest (l.keys.length - 1) l' := by
  have hp : p.char ≠ '%' ∧ p.char ≠ '-' ∧ p.char ≠ '.' := by
    rcases ht with ⟨hp, -⟩ | ⟨hp, -⟩ <;> rw [hp] <;> decide
  have hstructure : (l.arrive p rest).structureToken? p rest
      = some ((l.arrive p rest).closeFlow t rest) := by
    rcases ht with ⟨hp, rfl⟩ | ⟨hp, rfl⟩ <;> simp [structureToken?, hp]
  have hnext := next_of_structure hp rfl hstructure
  have hlength := length_keys_arrive l p rest
  have hflow' : inFlow { (l.arrive p rest) with keys := none :: (l.arrive p rest).keys.drop 1 } = true := by
    simp only [inFlow, List.length_cons, List.length_drop, decide_eq_true_eq]
    omega
  rw [closeFlow, forgetKey_eq (h.arrive p rest), Except.map, hflow', if_pos rfl] at hnext
  refine ⟨_, leads_of_next h hat hnext (Nat.le_refl _), rfl, ⟨[], blanks_nil, rfl⟩, ?_, ?_⟩
  · simp only [List.drop_succ_cons, List.drop_zero, List.length_drop]
    omega
  · refine ⟨fun k hk => (h.arrive p rest).keys k (List.mem_of_mem_drop hk), h.columns, ?_⟩
    simp only [List.drop_succ_cons, List.drop_zero, ← List.length_pos_iff, List.length_drop]
    omega

/-- A comma between brackets. -/
theorem reads_comma (h : l.Calm) (hat : l.StandsAt p rest) (hp : p.char = ',') :
    ∃ l', l.Reads [.flowEntry] rest l.keys.length l' ∧ l'.keyAllowed = true ∧ l'.rest = rest := by
  have hstructure : (l.arrive p rest).structureToken? p rest = some ((l.arrive p rest).flowEntry rest) := by
    simp [structureToken?, hp]
  have hnext := next_of_structure (by rw [hp]; decide) rfl hstructure
  have hlength := length_keys_arrive l p rest
  have hpos := List.length_pos_iff.2 h.nonempty
  rw [Lexer.flowEntry, forgetKey_eq (h.arrive p rest)] at hnext
  refine ⟨_, ⟨leads_of_next h hat hnext (Nat.le_refl _), rfl, ⟨[], blanks_nil, rfl⟩, ?_, ?_⟩, rfl, rfl⟩
  · simp only [emit, List.length_cons, List.length_drop]
    omega
  · refine ⟨fun k hk => ?_, h.columns, List.cons_ne_nil _ _⟩
    simp only [emit, List.mem_cons, reduceCtorEq, false_or] at hk
    exact (h.arrive p rest).keys k (List.mem_of_mem_drop hk)

/-- A scalar in quotes; a key may start with it. -/
theorem reads_text {text : String} {s : List Spot} (h : l.Calm) (hat : l.StandsAt p s)
    (hp : p.char = '"') (hw : Written text.toList s rest) (hkeeps : keepsLines text.toList = true) :
    ∃ l', l.Reads [.scalar text false] rest l.keys.length l' ∧ l'.rest = rest ∧
      (l.keyAllowed = true → l'.keys.head? = some (some (l.keyHere p))) := by
  have hnext : (l.arrive p s).next p s
      = (l.arrive p s).nodeToken p (.ok (.scalar text false, rest)) := by
    rw [next, outerToken?_eq_none (by rw [hp]; decide) rfl]
    simp only [structureToken?, nodeToken?, hp, hw.quotedScalar_eq hkeeps]
    rfl
  obtain ⟨keys, hremember, hkeys, hlength, hhead⟩ := rememberKey_ok (h.arrive p s) p
  simp only [nodeToken, hremember, bind, Except.bind, pure, Except.pure] at hnext
  refine ⟨_, ⟨leads_of_next h hat hnext hw.length_le, rfl, ⟨[], blanks_nil, rfl⟩, ?_, ?_⟩, rfl, hhead⟩
  · exact hlength.trans (length_keys_arrive l p s)
  · have hcalm := (h.arrive p s).of_keys hkeys hlength
    exact ⟨hcalm.keys, hcalm.columns, hcalm.nonempty⟩

/-- A key in quotes and its colon, on one line and near to one another. -/
theorem reads_key {name : String} {colon : Spot} {s : List Spot} (h : l.Calm) (hat : l.StandsAt p s)
    (hflow : 1 < l.keys.length) (hallowed : l.keyAllowed = true) (hp : p.char = '"')
    (hw : Written name.toList s (colon :: rest)) (hkeeps : keepsLines name.toList = true)
    (hcolon : colon.char = ':') (hnear : isStale colon (l.keyHere p) = false) :
    ∃ l', l.Reads [.key, .scalar name false, .value] rest l.keys.length l' ∧ l'.rest = rest := by
  obtain ⟨l₁, hread, hrest, hhead⟩ := reads_text h hat hp hw hkeeps
  obtain ⟨outer, houter⟩ : ∃ outer, l₁.keys = some (l.keyHere p) :: outer := by
    have hhead := hhead hallowed
    cases hkeys : l₁.keys with
    | nil => simp [hkeys] at hhead
    | cons k outer =>
      rw [hkeys, List.head?_cons, Option.some_inj] at hhead
      exact ⟨outer, by rw [hhead]⟩
  have hat₁ : l₁.StandsAt colon rest := ⟨by rw [hcolon]; decide, [], blanks_nil, hrest, .inr rfl⟩
  have hkeys : (l₁.arrive colon rest).keys = some (l.keyHere p) ::
      freshKeys (colon :: rest) (freshKeys (colon :: rest) outer) := by
    simp [arrive, hrest, houter, freshKeys, hnear, Option.filter]
  have hdeep : (l₁.arrive colon rest).inFlow = true := by
    simp only [inFlow, decide_eq_true_eq, length_keys_arrive, hread.depth]
    exact hflow
  have hstructure : (l₁.arrive colon rest).structureToken? colon rest
      = some ((l₁.arrive colon rest).valueColon colon rest) := by
    simp [structureToken?, hcolon, hdeep]
  have hnext := next_of_structure (by rw [hcolon]; decide) rfl hstructure
  have htokens : (l₁.arrive colon rest).tokens = .scalar name false :: l.tokens := hread.tokens
  simp only [valueColon, hkeys] at hnext
  have hleads := leads_of_next hread.calm hat₁ hnext (Nat.le_refl _)
  refine ⟨_, ⟨hread.leads.trans hleads, ?_, ⟨[], blanks_nil, rfl⟩, ?_, ?_⟩, rfl⟩
  · simp [emit, announceKey, htokens, keyHere, hdeep]
  · have hlength := length_keys_arrive l₁ colon rest
    rw [hkeys, hread.depth] at hlength
    simp only [emit, announceKey, hkeys, List.drop_succ_cons, List.drop_zero, ← hlength, List.length_cons]
  · refine ⟨fun k hk => ?_, ?_, List.cons_ne_nil _ _⟩
    · simp only [emit, announceKey, hkeys, List.drop_succ_cons, List.drop_zero, List.mem_cons,
        reduceCtorEq, false_or] at hk
      refine (hread.calm.arrive colon rest).keys k ?_
      rw [hkeys]
      exact List.mem_cons_of_mem _ hk
    · have hcolumns : (l₁.arrive colon rest).columns = [] := hread.calm.columns
      simp [emit, announceKey, hdeep, hcolumns]

/-! ### Truth values -/

/-- The end of a value between brackets: a comma or a closing bracket, after blanks. -/
def Ends (s : List Spot) : Prop :=
  ∃ blanks p rest, Blanks blanks ∧ s = blanks ++ p :: rest ∧
    (p.char = ',' ∨ p.char = ']' ∨ p.char = '\x7d')

theorem skipLines_blanks {s : List Spot} (h : Blanks s) (hspace : p.char ≠ ' ')
    (hbreak : isBreak p.char = false) : (skipLines (· == ' ') (s ++ p :: rest)).2 = p :: rest := by
  induction s with
  | nil => simp [skipLines, hbreak, hspace]
  | cons x s ih =>
    rw [Blanks, List.forall_mem_cons] at h
    rcases h.1 with hx | hx <;> simp [skipLines, hx, isBreak, ih h.2]

theorem plainGap_rest {s : List Spot} (h : Blanks s) (hspace : p.char ≠ ' ')
    (hbreak : isBreak p.char = false) : (plainGap (s ++ p :: rest)).rest = p :: rest := by
  induction s with
  | nil => simp [plainGap, hspace, hbreak]
  | cons x s ih =>
    rw [Blanks, List.forall_mem_cons] at h
    have hskip : (skipLines (· == ' ') (s ++ p :: rest)).2 = p :: rest :=
      skipLines_blanks h.2 hspace hbreak
    rcases h.1 with hx | hx
    · refine Eq.trans ?_ (ih h.2)
      cases hdrop : (s ++ p :: rest).dropWhile fun p => p.char == ' ' with
      | nil => simp [plainGap, hx, hdrop]
      | cons q s' => cases hq : isBreak q.char <;> simp [plainGap, hx, hdrop, hq]
    · simp [plainGap, hx, isBreak, hskip]

theorem plainWord_eq {word : List Spot} (hword : ∀ x ∈ word, isIndicator x.char = false)
    {s : List Spot} (hs : endsWord true s = true) : plainWord true (word ++ s) = (chars word, s) := by
  induction word with
  | nil =>
    cases s with
    | nil => rfl
    | cons p s => simp [plainWord, hs, chars]
  | cons x word ih =>
    rw [List.forall_mem_cons] at hword
    have hends : endsWord true (x :: (word ++ s)) = false := by
      have hx := hword.1
      simp only [isIndicator, Bool.or_eq_false_iff, List.contains_eq_mem, decide_eq_false_iff_not,
        List.mem_cons, not_or] at hx
      simp [endsWord, isFlowIndicator, hx]
    rw [List.cons_append, plainWord, hends, ih hword.2]
    rfl

theorem plainScalar_eq {word : List Spot} (hne : word ≠ [])
    (hword : ∀ x ∈ word, isIndicator x.char = false) {s : List Spot} (hs : Ends s) (indent : Nat) :
    ∃ blanks, Blanks blanks ∧ s = blanks ++ (plainScalar true indent (word ++ s)).rest ∧
      (plainScalar true indent (word ++ s)).text = chars word := by
  obtain ⟨blanks, p, rest, hblanks, rfl, hp⟩ := hs
  have hends : endsWord true (blanks ++ p :: rest) = true := by
    cases blanks with
    | nil => rcases hp with hp | hp | hp <;> simp [endsWord, isFlowIndicator, hp]
    | cons x blanks =>
      rcases hblanks x List.mem_cons_self with hx | hx <;>
        simp [endsWord, isGap, isSpaceOrTab, isBreak, hx]
  have hstops : plainWord true (p :: rest) = ([], p :: rest) := by
    have : endsWord true (p :: rest) = true := by
      rcases hp with hp | hp | hp <;> simp [endsWord, isFlowIndicator, hp]
    rw [plainWord, this]
    rfl
  have hgap : (plainGap (blanks ++ p :: rest)).rest = p :: rest := by
    refine plainGap_rest hblanks ?_ ?_ <;> rcases hp with hp | hp | hp <;> rw [hp] <;> decide
  obtain ⟨fuel, hfuel⟩ : ∃ fuel, (word ++ (blanks ++ p :: rest)).length = fuel + 1 :=
    ⟨_, (Nat.succ_pred_eq_of_pos (by simp only [List.length_append, List.length_cons]; omega)).symm⟩
  have hempty : (chars word).isEmpty = false := by simpa [chars] using hne
  refine ⟨blanks, hblanks, ?_⟩
  rw [plainScalar, hfuel, plainWords, plainWord_eq hword hends]
  simp only [hempty, Bool.false_eq_true, if_false, List.nil_append]
  split
  · rw [plainWords, hgap, hstops]
    simp
  · simp [hgap]

/-- The word for a truth value. -/
def wordOf (b : Bool) : String := if b then "true" else "false"

theorem reads_bool {b : Bool} {word s : List Spot} (h : l.Calm) (hat : l.StandsAt p (word ++ s))
    (hflow : 1 < l.keys.length) (hb : chars (p :: word) = (wordOf b).toList) (hs : Ends s) :
    ∃ l', l.Reads [.scalar (wordOf b) true] s l.keys.length l' := by
  have hword : ∀ x ∈ p :: word, isIndicator x.char = false := by
    have hall : (wordOf b).toList.all (!isIndicator ·) = true := by cases b <;> decide
    intro x hx
    simpa using List.all_eq_true.1 hall x.char (hb ▸ List.mem_map_of_mem hx)
  have hp : p.char = 't' ∨ p.char = 'f' := by
    cases b with
    | true => exact .inl (List.cons.inj hb).1
    | false => exact .inr (List.cons.inj hb).1
  have hdeep : (l.arrive p (word ++ s)).inFlow = true := by
    simp only [inFlow, decide_eq_true_eq, length_keys_arrive]
    exact hflow
  have hnext : (l.arrive p (word ++ s)).next p (word ++ s) = (l.arrive p (word ++ s)).plainText p := by
    have hstarts : (l.arrive p (word ++ s)).startsPlain p (word ++ s) = true := by
      simp [startsPlain, hword p List.mem_cons_self]
    rw [next, outerToken?_eq_none (by rcases hp with hp | hp <;> rw [hp] <;> decide) rfl]
    rcases hp with hp | hp <;> simp [structureToken?, nodeToken?, hp, hstarts]
  obtain ⟨keys, hremember, hkeys, hlength, -⟩ := rememberKey_ok (h.arrive p (word ++ s)) p
  have hflow' : inFlow { (l.arrive p (word ++ s)) with keys } = true := by
    simpa only [inFlow, hlength] using hdeep
  simp only [plainText, hremember, bind, Except.bind, pure, Except.pure, hflow'] at hnext
  obtain ⟨indent, hindent⟩ : ∃ indent, indent =
      ((l.arrive p (word ++ s)).columns.head?.map (· + 1)).getD 0 := ⟨_, rfl⟩
  have hplain := plainScalar_eq (List.cons_ne_nil p word) hword hs indent
  change ∃ blanks, Blanks blanks ∧
    s = blanks ++ (plainScalar true indent (l.arrive p (word ++ s)).rest).rest ∧
    (plainScalar true indent (l.arrive p (word ++ s)).rest).text = chars (p :: word) at hplain
  rw [← hindent] at hnext
  obtain ⟨blanks, hblanks, hrest, htext⟩ := hplain
  have hcalm := (h.arrive p (word ++ s)).of_keys hkeys hlength
  have hle := congrArg List.length hrest
  rw [List.length_append] at hle
  refine ⟨_, leads_of_next h hat hnext ?_, ?_, ⟨blanks, hblanks, hrest⟩, ?_, ?_⟩
  · simp only [emit, List.length_append]
    omega
  · simp only [emit, htext, hb, String.ofList_toList]
    rfl
  · exact hlength.trans (length_keys_arrive l p _)
  · exact ⟨hcalm.keys, hcalm.columns, hcalm.nonempty⟩

end Lexer

end ScriptDoc.Yaml
