import Vidix.Util.CLiteral

/-!
# Tokens of C

`tokens` reads a text as words (identifiers, keywords and numbers), string literals and punctuators,
without the white space and the comments between them.  A literal is kept as it is spelled between
its quotes.  Directives, character constants and punctuators of several characters are not known:
what is in none of the tokens is a token of its own, character by character.

A text is read piece by piece where no piece ends within a token: `Reads` says what a piece adds to
the tokens of whatever stands behind it.
-/

namespace Vidix.Util

inductive Token where
  | word (text : List Char)
  | literal (spelling : List Char)
  | openBrace
  | closeBrace
  | openBracket
  | closeBracket
  | comma
  | semicolon
  | assign
  | other (c : Char)
  deriving DecidableEq

def punctuator (c : Char) : Token :=
  match c with
  | '{' => .openBrace
  | '}' => .closeBrace
  | '[' => .openBracket
  | ']' => .closeBracket
  | ',' => .comma
  | ';' => .semicolon
  | '=' => .assign
  | c => .other c

/-- White space: a blank, or one of the control characters from the tab to the carriage return. -/
def isBlank (c : Char) : Bool :=
  c == ' ' || (9 ≤ c.toNat && c.toNat ≤ 13)

def isWordChar (c : Char) : Bool :=
  c.isAlphanum || c == '_'

theorem isWordChar_of_isAlphanum {c : Char} (h : c.isAlphanum = true) : isWordChar c = true := by
  rw [isWordChar, h, Bool.true_or]

theorem isWordChar_of_isDigitOf {base : ℕ} {c : Char} (h : isDigitOf base c = true) :
    isWordChar c = true := by
  unfold isDigitOf digitValue at h
  unfold isWordChar Char.isAlphanum Char.isAlpha Char.isUpper Char.isLower
  split_ifs at h with hdigit hlower hupper
  · simp [hdigit]
  · have hz : c.val ≤ 122 := UInt32.le_trans hlower.2 (by decide)
    have ha : 97 ≤ c.val := hlower.1
    simp [ha, hz]
  · have hz : c.val ≤ 90 := UInt32.le_trans hupper.2 (by decide)
    have ha : 65 ≤ c.val := hupper.1
    simp [ha, hz]
  · cases h

/-- What stands behind a comment, from behind its opening. -/
def afterComment : List Char → Option (List Char)
  | [] => none
  | c :: s => if c = '*' ∧ s.head? = some '/' then some s.tail else afterComment s

theorem length_lt_of_afterComment {s rest : List Char} (h : afterComment s = some rest) :
    rest.length < s.length := by
  induction s with
  | nil => cases h
  | cons c s ih =>
    rw [afterComment] at h
    split_ifs at h
    · rw [← Option.some.inj h, List.length_tail, List.length_cons]
      omega
    · exact Nat.lt_succ_of_lt (ih h)

/-- The tokens of a text; `none` where a literal or a comment does not come to its end. -/
def tokens (s : List Char) : Option (List Token) :=
  match s with
  | [] => some []
  | c :: s =>
    if isWordChar c then
      have := List.length_dropWhile_le isWordChar s
      (tokens (s.dropWhile isWordChar)).map (.word (c :: s.takeWhile isWordChar) :: ·)
    else if isBlank c then tokens s
    else if c = quoteChar then
      match h : readLiteral s with
      | none => none
      | some (_, rest) =>
        have := length_lt_of_readLiteral h
        (tokens rest).map (.literal (s.take (s.length - (rest.length + 1))) :: ·)
    else if c = '/' ∧ s.head? = some '/' then
      have := List.length_dropWhile_le (· != newlineChar) s
      tokens (s.dropWhile (· != newlineChar))
    else if c = '/' ∧ s.head? = some '*' then
      match h : afterComment s.tail with
      | none => none
      | some rest =>
        have := length_lt_of_afterComment h
        have : s.tail.length ≤ s.length := by
          rw [List.length_tail]
          exact Nat.sub_le _ _
        tokens rest
    else (tokens s).map (punctuator c :: ·)
termination_by s.length

theorem tokens_nil : tokens [] = some [] := by
  rw [tokens]

theorem tokens_blank {c : Char} (hword : isWordChar c = false) (hblank : isBlank c = true)
    (s : List Char) : tokens (c :: s) = tokens s := by
  rw [tokens, if_neg (by simp [hword]), if_pos hblank]

/-- A character that is neither blank nor in a word, nor the beginning of a literal or a comment. -/
def IsPunctuator (c : Char) : Prop :=
  isWordChar c = false ∧ isBlank c = false ∧ c ≠ quoteChar ∧ c ≠ '/'

instance (c : Char) : Decidable (IsPunctuator c) :=
  inferInstanceAs (Decidable (_ ∧ _))

theorem tokens_punctuator {c : Char} (hc : IsPunctuator c) (s : List Char) :
    tokens (c :: s) = (tokens s).map (punctuator c :: ·) := by
  obtain ⟨hword, hblank, hquote, hslash⟩ := hc
  rw [tokens, if_neg (by simp [hword]), if_neg (by simp [hblank]), if_neg hquote,
    if_neg fun h => hslash h.1, if_neg fun h => hslash h.1]

/-- A word goes as far as its characters do. -/
theorem tokens_word {w : List Char} (hne : w ≠ []) (hw : ∀ c ∈ w, isWordChar c = true) {d : Char}
    (hd : isWordChar d = false) (s : List Char) :
    tokens (w ++ d :: s) = (tokens (d :: s)).map (.word w :: ·) := by
  obtain ⟨c, w, rfl⟩ := List.exists_cons_of_ne_nil hne
  have hc := hw c List.mem_cons_self
  have hrest : ∀ c ∈ w, isWordChar c = true := fun c h => hw c (List.mem_cons_of_mem _ h)
  rw [List.cons_append, tokens, if_pos hc,
    List.dropWhile_append_of_pos hrest, List.takeWhile_append_of_pos hrest,
    List.dropWhile_cons_of_neg (by simp [hd]), List.takeWhile_cons_of_neg (by simp [hd]),
    List.append_nil]

theorem tokens_quote_of_none {s : List Char} (h : readLiteral s = none) :
    tokens (quoteChar :: s) = none := by
  rw [tokens, if_neg (by decide), if_neg (by decide), if_pos rfl]
  split
  · rfl
  · next hsome =>
    rw [h] at hsome
    cases hsome

theorem tokens_quote {s v rest : List Char}
    (h : readLiteral (s ++ quoteChar :: rest) = some (v, rest)) :
    tokens (quoteChar :: (s ++ quoteChar :: rest)) = (tokens rest).map (.literal s :: ·) := by
  rw [tokens, if_neg (by decide), if_neg (by decide), if_pos rfl]
  split
  · next hnone =>
    rw [h] at hnone
    cases hnone
  · next hsome =>
    rw [h] at hsome
    obtain ⟨-, rfl⟩ := Prod.mk.inj (Option.some.inj hsome)
    have htake : (s ++ quoteChar :: rest).take
        ((s ++ quoteChar :: rest).length - (rest.length + 1)) = s := by
      rw [List.length_append, List.length_cons, Nat.add_sub_cancel, List.take_left]
    rw [htake]

/-- What comes of a quote is a literal, if it ends; it is spelled by the text up to a quote behind
it only where that text spells a literal. -/
theorem exists_literal_of_tokens {s rest : List Char} {ts : List Token}
    (h : tokens (quoteChar :: (s ++ quoteChar :: rest)) = some ts) :
    ∃ spelling ts', ts = .literal spelling :: ts' ∧ (spelling = s → SpellsLiteral s) := by
  cases hread : readLiteral (s ++ quoteChar :: rest) with
  | none =>
    rw [tokens_quote_of_none hread] at h
    cases h
  | some p =>
    obtain ⟨v, rest'⟩ := p
    obtain ⟨spelling, hspelling⟩ := exists_spelling hread
    rw [hspelling] at h hread
    rw [tokens_quote hread] at h
    obtain ⟨ts', -, rfl⟩ := Option.map_eq_some_iff.1 h
    refine ⟨spelling, ts', rfl, ?_⟩
    rintro rfl
    exact (spellsLiteral_iff rest').2 ⟨v, hread⟩

/-! ### Pieces -/

/-- What a piece of text adds to the tokens of the text behind it. -/
def Reads (text : List Char) (ts : List Token) : Prop :=
  ∀ s, tokens (text ++ s) = (tokens s).map (ts ++ ·)

theorem Reads.nil : Reads [] [] := by
  intro s
  cases h : tokens s <;> simp [h]

theorem Reads.append {text text' : List Char} {ts ts' : List Token} (h : Reads text ts)
    (h' : Reads text' ts') : Reads (text ++ text') (ts ++ ts') := by
  intro s
  rw [List.append_assoc, h, h', Option.map_map]
  refine congrArg (Option.map · (tokens s)) (funext fun us => ?_)
  exact (List.append_assoc ts ts' us).symm

theorem Reads.blank {c : Char} {text : List Char} {ts : List Token}
    (hc : isWordChar c = false ∧ isBlank c = true) (h : Reads text ts) : Reads (c :: text) ts :=
  fun s => (tokens_blank hc.1 hc.2 (text ++ s)).trans (h s)

theorem Reads.punctuator {c : Char} {text : List Char} {ts : List Token} (hc : IsPunctuator c)
    (h : Reads text ts) : Reads (c :: text) (punctuator c :: ts) := by
  intro s
  rw [List.cons_append, tokens_punctuator hc, h, Option.map_map]
  rfl

theorem Reads.word {w : List Char} {d : Char} {text : List Char} {ts : List Token} (hne : w ≠ [])
    (hw : ∀ c ∈ w, isWordChar c = true) (hd : isWordChar d = false) (h : Reads (d :: text) ts) :
    Reads (w ++ d :: text) (.word w :: ts) := by
  intro s
  have hrest := h s
  rw [List.cons_append] at hrest
  rw [List.append_assoc, List.cons_append, tokens_word hne hw hd, hrest, Option.map_map]
  rfl

/-- A word of the language, and the blank behind it. -/
theorem Reads.keyword {w text : List Char} {ts : List Token} (h : Reads text ts)
    (hw : w ≠ [] ∧ w.all isWordChar = true) : Reads (w ++ ' ' :: text) (.word w :: ts) :=
  .word hw.1 (List.all_eq_true.1 hw.2) (by decide) (.blank (by decide) h)

theorem Reads.literal {t text : List Char} {ts : List Token} (ht : SpellsLiteral t)
    (h : Reads text ts) : Reads (quoteChar :: (t ++ quoteChar :: text)) (.literal t :: ts) := by
  intro s
  obtain ⟨v, hv⟩ := (spellsLiteral_iff (text ++ s)).1 ht
  rw [List.cons_append, List.append_assoc, List.cons_append, tokens_quote hv, h, Option.map_map]
  rfl

/-- A text of pieces is read piece by piece. -/
theorem Reads.flatMap {ι : Type*} {text : ι → List Char} {ts : ι → List Token} {xs : List ι}
    (h : ∀ x ∈ xs, Reads (text x) (ts x)) : Reads (xs.flatMap text) (xs.flatMap ts) := by
  induction xs with
  | nil => exact .nil
  | cons x xs ih =>
    rw [List.flatMap_cons, List.flatMap_cons]
    exact (h x List.mem_cons_self).append (ih fun y hy => h y (List.mem_cons_of_mem x hy))

theorem Reads.tokens_eq {text : List Char} {ts : List Token} (h : Reads text ts) :
    tokens text = some ts := by
  have hnil := h []
  rwa [List.append_nil, tokens_nil, Option.map_some, List.append_nil] at hnil

end Vidix.Util
