import Vidix.Util.Digits

/-!
# String literals of C

`readLiteral` reads a string literal from behind its opening quote: the characters that it stands
for, and the text behind its closing quote.  An escape sequence is the backslash and one of the
characters with a meaning of their own, up to three octal digits, an `x` and hexadecimal digits, or
a `u` or `U` and the number of a character, which is written in UTF-8.  Text and characters are
bytes.  Trigraphs and lines that are continued belong to earlier phases of the translation.

A text whose quotes are escaped, and nothing else, is read back as what it was exactly when it
holds no backslash (`readLiteral_escapeQuotes_iff`).
-/

namespace Vidix.Util

def quoteChar : Char := Char.ofNat 34
def apostropheChar : Char := Char.ofNat 39
def backslashChar : Char := Char.ofNat 92
def newlineChar : Char := Char.ofNat 10

/-! ### Escape sequences -/

/-- A character with this value, if there is one. -/
def byteOf (n : ℕ) : Option (List Char) :=
  if n < 256 then some [Char.ofNat n] else none

/-- The bytes of a character that may be written with its number. -/
def universal (n : ℕ) : Option (List Char) :=
  if n.isValidChar ∧ (0xA0 ≤ n ∨ n = 0x24 ∨ n = 0x40 ∨ n = 0x60) then
    some ((String.utf8EncodeChar (Char.ofNat n)).map fun b => Char.ofNat b.toNat)
  else none

/-- The characters that stand for one character when there is a backslash before them. -/
def simpleEscape (c : Char) : Option Char :=
  if c = quoteChar ∨ c = backslashChar ∨ c = apostropheChar ∨ c = '?' then some c
  else
    [('a', 7), ('b', 8), ('f', 12), ('n', 10), ('r', 13), ('t', 9), ('v', 11)].lookup c |>.map
      Char.ofNat

/-- The digits that a text starts with, `k` of them at most. -/
def leadingDigits (base k : ℕ) (s : List Char) : List Char :=
  (s.take k).takeWhile (isDigitOf base)

/-- What the leading digits stand for, and the text behind them. -/
def readDigits (base k : ℕ) (value : ℕ → Option (List Char)) (s : List Char) :
    Option (List Char × List Char) :=
  let digits := leadingDigits base k s
  if digits = [] then none
  else (value (digitsValue base digits)).map fun v => (v, s.drop digits.length)

/-- As many digits as `k`, and no fewer. -/
def readUniversal (k : ℕ) (s : List Char) : Option (List Char × List Char) :=
  if (leadingDigits 16 k s).length = k then readDigits 16 k universal s else none

/-- An escape sequence, from behind its backslash. -/
def readEscape : List Char → Option (List Char × List Char)
  | [] => none
  | c :: s =>
    match simpleEscape c with
    | some d => some ([d], s)
    | none =>
      if isDigitOf 8 c then readDigits 8 3 byteOf (c :: s)
      else if c = 'x' then readDigits 16 s.length byteOf s
      else if c = 'u' then readUniversal 4 s
      else if c = 'U' then readUniversal 8 s
      else none

/-- What an escape sequence is, as far as the length goes: a backslash or a quote that stands for
itself, or characters that are neither of the two and stand for no more characters. -/
inductive ReadsEscape : List Char → List Char → List Char → Prop
  | backslash (s : List Char) : ReadsEscape (backslashChar :: s) [backslashChar] s
  | quote (s : List Char) : ReadsEscape (quoteChar :: s) [quoteChar] s
  | other {pre v : List Char} (s : List Char) (hne : pre ≠ []) (hlen : v.length ≤ pre.length)
      (hpre : ∀ c ∈ pre, c ≠ backslashChar ∧ c ≠ quoteChar) : ReadsEscape (pre ++ s) v s

/-- Digits are neither backslashes nor quotes. -/
theorem ne_of_isDigitOf {base : ℕ} {c : Char} (h : isDigitOf base c = true) :
    c ≠ backslashChar ∧ c ≠ quoteChar := by
  constructor
  · rintro rfl
    exact absurd h Bool.false_ne_true
  · rintro rfl
    exact absurd h Bool.false_ne_true

theorem length_byteOf {n : ℕ} {v : List Char} (h : byteOf n = some v) : v.length = 1 := by
  rw [byteOf] at h
  split_ifs at h
  rw [← Option.some.inj h]
  rfl

theorem length_universal_le {n : ℕ} {v : List Char} (h : universal n = some v) :
    v.length ≤ 4 := by
  rw [universal] at h
  split_ifs at h
  rw [← Option.some.inj h, List.length_map, String.length_utf8EncodeChar]
  exact Char.utf8Size_le_four _

theorem isPrefix_leadingDigits (base k : ℕ) (s : List Char) : leadingDigits base k s <+: s :=
  (List.takeWhile_prefix _).trans (List.take_prefix k s)

/-- Digits that are read leave the text behind them. -/
theorem readDigits_eq_some {base k : ℕ} {value : ℕ → Option (List Char)} {s v rest : List Char}
    (h : readDigits base k value s = some (v, rest)) :
    leadingDigits base k s ≠ [] ∧ s = leadingDigits base k s ++ rest ∧
      value (digitsValue base (leadingDigits base k s)) = some v := by
  rw [readDigits] at h
  split_ifs at h with hdigits
  obtain ⟨w, hw, heq⟩ := Option.map_eq_some_iff.1 h
  obtain ⟨rfl, rfl⟩ := Prod.mk.inj heq
  exact ⟨hdigits, (List.prefix_iff_eq_append.1 (isPrefix_leadingDigits base k s)).symm, hw⟩

theorem ne_of_mem_leadingDigits {base k : ℕ} {s : List Char} {c : Char}
    (hc : c ∈ leadingDigits base k s) : c ≠ backslashChar ∧ c ≠ quoteChar :=
  ne_of_isDigitOf (List.mem_takeWhile_imp hc)

/-- A letter and the digits after it. -/
theorem readsEscape_letter {base k : ℕ} {value : ℕ → Option (List Char)} {c : Char}
    {s v rest : List Char} (hc : c ≠ backslashChar ∧ c ≠ quoteChar)
    (h : readDigits base k value s = some (v, rest))
    (hlen : v.length ≤ (leadingDigits base k s).length + 1) : ReadsEscape (c :: s) v rest := by
  obtain ⟨-, hsplit, -⟩ := readDigits_eq_some h
  rw [hsplit, ← List.cons_append]
  refine .other rest (List.cons_ne_nil _ _) hlen ?_
  intro d hd
  rcases List.mem_cons.1 hd with rfl | hd
  · exact hc
  · exact ne_of_mem_leadingDigits hd

theorem readsEscape_universal {k : ℕ} {c : Char} {s v rest : List Char}
    (hc : c ≠ backslashChar ∧ c ≠ quoteChar) (hk : 4 ≤ k)
    (h : readUniversal k s = some (v, rest)) : ReadsEscape (c :: s) v rest := by
  rw [readUniversal] at h
  split_ifs at h with hlength
  refine readsEscape_letter hc h ?_
  obtain ⟨-, -, hv⟩ := readDigits_eq_some h
  have := length_universal_le hv
  omega

theorem readsEscape_simple {c d : Char} (h : simpleEscape c = some d) (s : List Char) :
    ReadsEscape (c :: s) [d] s := by
  by_cases hback : c = backslashChar
  · subst hback
    obtain rfl : backslashChar = d := Option.some.inj h
    exact .backslash s
  by_cases hquote : c = quoteChar
  · subst hquote
    obtain rfl : quoteChar = d := Option.some.inj h
    exact .quote s
  refine .other s (List.cons_ne_nil c []) (Nat.le_refl 1) ?_
  intro a ha
  rw [List.mem_singleton.1 ha]
  exact ⟨hback, hquote⟩

theorem readsEscape {s v rest : List Char} (h : readEscape s = some (v, rest)) :
    ReadsEscape s v rest := by
  cases s with
  | nil => cases h
  | cons c s =>
    rw [readEscape] at h
    cases hsimple : simpleEscape c with
    | some d =>
      rw [hsimple] at h
      obtain ⟨rfl, rfl⟩ := Prod.mk.inj (Option.some.inj h)
      exact readsEscape_simple hsimple s
    | none =>
      rw [hsimple] at h
      dsimp only at h
      split_ifs at h with hoctal hx hu hU
      · obtain ⟨hne, hsplit, hv⟩ := readDigits_eq_some h
        rw [hsplit]
        refine .other rest hne ?_ fun _ hd => ne_of_mem_leadingDigits hd
        rw [length_byteOf hv]
        exact List.length_pos_iff.2 hne
      · refine readsEscape_letter (by subst hx; decide) h ?_
        obtain ⟨-, -, hv⟩ := readDigits_eq_some h
        rw [length_byteOf hv]
        omega
      · exact readsEscape_universal (by subst hu; decide) (Nat.le_refl 4) h
      · exact readsEscape_universal (by subst hU; decide) (by decide) h

theorem ReadsEscape.length_lt {s v rest : List Char} (h : ReadsEscape s v rest) :
    rest.length < s.length := by
  cases h with
  | backslash => exact Nat.lt_succ_self _
  | quote => exact Nat.lt_succ_self _
  | other _ hne _ _ =>
    rw [List.length_append]
    have := List.length_pos_iff.2 hne
    omega

theorem ReadsEscape.isSuffix {s v rest : List Char} (h : ReadsEscape s v rest) : rest <:+ s := by
  cases h with
  | backslash => exact List.suffix_cons _ _
  | quote => exact List.suffix_cons _ _
  | other => exact List.suffix_append _ _

/-! ### What stands behind an escape sequence

An escape sequence that does not escape a quote ends before it, whatever stands behind that quote.
-/

/-- Digits do not go over a quote. -/
theorem leadingDigits_append_quote (base k : ℕ) (s t : List Char) :
    leadingDigits base k (s ++ quoteChar :: t) = leadingDigits base k s := by
  induction s generalizing k with
  | nil => cases k <;> rfl
  | cons c s ih =>
    cases k with
    | zero => rfl
    | succ k =>
      have htail := ih k
      unfold leadingDigits at htail ⊢
      rw [List.cons_append, List.take_succ_cons, List.take_succ_cons, List.takeWhile_cons,
        List.takeWhile_cons, htail]

/-- A bound above the length is none. -/
theorem leadingDigits_of_length_le {base k k' : ℕ} {s : List Char} (hk : s.length ≤ k)
    (hk' : s.length ≤ k') : leadingDigits base k s = leadingDigits base k' s := by
  rw [leadingDigits, leadingDigits, List.take_of_length_le hk, List.take_of_length_le hk']

theorem readDigits_append_quote (base k : ℕ) (value : ℕ → Option (List Char)) (s t : List Char) :
    readDigits base k value (s ++ quoteChar :: t) =
      (readDigits base k value s).map fun p => (p.1, p.2 ++ quoteChar :: t) := by
  have hle : (leadingDigits base k s).length ≤ s.length :=
    (isPrefix_leadingDigits base k s).length_le
  rw [readDigits, readDigits, leadingDigits_append_quote, List.drop_append_of_le_length hle]
  split_ifs
  · rfl
  · cases value (digitsValue base (leadingDigits base k s)) <;> rfl

theorem readUniversal_append_quote (k : ℕ) (s t : List Char) :
    readUniversal k (s ++ quoteChar :: t) =
      (readUniversal k s).map fun p => (p.1, p.2 ++ quoteChar :: t) := by
  rw [readUniversal, readUniversal, leadingDigits_append_quote, readDigits_append_quote]
  split_ifs <;> rfl

theorem readEscape_append_quote {s : List Char} (hs : s ≠ []) (t : List Char) :
    readEscape (s ++ quoteChar :: t) =
      (readEscape s).map fun p => (p.1, p.2 ++ quoteChar :: t) := by
  obtain ⟨c, s, rfl⟩ := List.exists_cons_of_ne_nil hs
  have hoctal := readDigits_append_quote 8 3 byteOf (c :: s) t
  have hhex : readDigits 16 (s ++ quoteChar :: t).length byteOf (s ++ quoteChar :: t) =
      (readDigits 16 s.length byteOf s).map fun p => (p.1, p.2 ++ quoteChar :: t) := by
    have hle : s.length ≤ (s ++ quoteChar :: t).length := by
      rw [List.length_append]
      exact Nat.le_add_right _ _
    rw [readDigits_append_quote, readDigits, readDigits,
      leadingDigits_of_length_le hle (Nat.le_refl s.length)]
  rw [List.cons_append, readEscape, readEscape]
  cases simpleEscape c with
  | some d => rfl
  | none =>
    dsimp only
    rw [← List.cons_append, hoctal, hhex, readUniversal_append_quote, readUniversal_append_quote]
    split_ifs <;> rfl

/-! ### Literals -/

/-- What a literal stands for, from behind its opening quote, and the text behind its closing one.
A literal does not go over the end of a line. -/
def readLiteral (s : List Char) : Option (List Char × List Char) :=
  match s with
  | [] => none
  | c :: s =>
    if c = quoteChar then some ([], s)
    else if c = newlineChar then none
    else if c = backslashChar then
      match h : readEscape s with
      | none => none
      | some (v, rest) =>
        have := (readsEscape h).length_lt
        (readLiteral rest).map fun p => (v ++ p.1, p.2)
    else (readLiteral s).map fun p => (c :: p.1, p.2)
termination_by s.length

theorem readLiteral_quote (s : List Char) : readLiteral (quoteChar :: s) = some ([], s) := by
  rw [readLiteral, if_pos rfl]

theorem readLiteral_backslash {s v rest : List Char} (h : readEscape s = some (v, rest)) :
    readLiteral (backslashChar :: s) = (readLiteral rest).map fun p => (v ++ p.1, p.2) := by
  rw [readLiteral, if_neg (by decide), if_neg (by decide), if_pos rfl]
  split
  · next hnone =>
    rw [hnone] at h
    cases h
  · next v' rest' hsome =>
    rw [hsome] at h
    obtain ⟨rfl, rfl⟩ := Prod.mk.inj (Option.some.inj h)
    rfl

theorem readLiteral_backslash_eq_none {s : List Char} (h : readEscape s = none) :
    readLiteral (backslashChar :: s) = none := by
  rw [readLiteral, if_neg (by decide), if_neg (by decide), if_pos rfl]
  split
  · rfl
  · next hsome =>
    rw [hsome] at h
    cases h

theorem readLiteral_cons {c : Char} (hquote : c ≠ quoteChar) (hnewline : c ≠ newlineChar)
    (hback : c ≠ backslashChar) (s : List Char) :
    readLiteral (c :: s) = (readLiteral s).map fun p => (c :: p.1, p.2) := by
  rw [readLiteral, if_neg hquote, if_neg hnewline, if_neg hback]

theorem readLiteral_newline (s : List Char) : readLiteral (newlineChar :: s) = none := by
  rw [readLiteral, if_neg (by decide), if_pos rfl]

/-- A literal does not end on a line without quotes. -/
theorem readLiteral_eq_none_of_line {s : List Char}
    (hs : ∀ c ∈ s, c ≠ quoteChar ∧ c ≠ newlineChar ∧ c ≠ backslashChar) (t : List Char) :
    readLiteral (s ++ newlineChar :: t) = none := by
  induction s with
  | nil => exact readLiteral_newline t
  | cons c s ih =>
    obtain ⟨hquote, hnewline, hback⟩ := hs c List.mem_cons_self
    rw [List.cons_append, readLiteral_cons hquote hnewline hback,
      ih fun d hd => hs d (List.mem_cons_of_mem c hd)]
    rfl

/-- A literal is spelled by the text up to its closing quote. -/
theorem exists_spelling {s v rest : List Char} (h : readLiteral s = some (v, rest)) :
    ∃ spelling, s = spelling ++ quoteChar :: rest := by
  induction hn : s.length using Nat.strong_induction_on generalizing s v rest with
  | _ n ih =>
  subst hn
  cases s with
  | nil => rw [readLiteral] at h; cases h
  | cons c s =>
    by_cases hquote : c = quoteChar
    · subst hquote
      rw [readLiteral_quote] at h
      obtain ⟨-, rfl⟩ := Prod.mk.inj (Option.some.inj h)
      exact ⟨[], rfl⟩
    by_cases hnewline : c = newlineChar
    · rw [hnewline, readLiteral_newline] at h
      cases h
    by_cases hback : c = backslashChar
    · subst hback
      cases hescape : readEscape s with
      | none =>
        rw [readLiteral_backslash_eq_none hescape] at h
        cases h
      | some p =>
        obtain ⟨v, after⟩ := p
        rw [readLiteral_backslash hescape] at h
        obtain ⟨q, hq, heq⟩ := Option.map_eq_some_iff.1 h
        obtain ⟨-, rfl⟩ := Prod.mk.inj heq
        have hlt := (readsEscape hescape).length_lt
        obtain ⟨pre, rfl⟩ := (readsEscape hescape).isSuffix
        obtain ⟨spelling, hs⟩ := ih after.length (Nat.lt_succ_of_lt hlt) hq rfl
        exact ⟨backslashChar :: (pre ++ spelling), by rw [hs]; simp⟩
    · rw [readLiteral_cons hquote hnewline hback] at h
      obtain ⟨q, hq, heq⟩ := Option.map_eq_some_iff.1 h
      obtain ⟨-, rfl⟩ := Prod.mk.inj heq
      obtain ⟨spelling, hs⟩ := ih s.length (Nat.lt_succ_self _) hq rfl
      exact ⟨c :: spelling, by rw [hs, List.cons_append]⟩

/-- A literal takes up some text. -/
theorem length_lt_of_readLiteral {s v rest : List Char} (h : readLiteral s = some (v, rest)) :
    rest.length < s.length := by
  obtain ⟨spelling, rfl⟩ := exists_spelling h
  rw [List.length_append, List.length_cons]
  omega

/-- **Whether a literal ends at a quote does not depend on what stands behind that quote.** -/
theorem readLiteral_behind {s v t : List Char}
    (h : readLiteral (s ++ quoteChar :: t) = some (v, t)) (t' : List Char) :
    readLiteral (s ++ quoteChar :: t') = some (v, t') := by
  induction hn : s.length using Nat.strong_induction_on generalizing s v with
  | _ n ih =>
  subst hn
  cases s with
  | nil =>
    rw [List.nil_append, readLiteral_quote] at h
    obtain ⟨rfl, -⟩ := Prod.mk.inj (Option.some.inj h)
    exact readLiteral_quote t'
  | cons c s =>
    rw [List.cons_append] at h ⊢
    by_cases hquote : c = quoteChar
    · -- the literal ends before the quote
      subst hquote
      rw [readLiteral_quote] at h
      have := congrArg List.length (Prod.mk.inj (Option.some.inj h)).2
      rw [List.length_append, List.length_cons] at this
      omega
    by_cases hnewline : c = newlineChar
    · rw [hnewline, readLiteral_newline] at h
      cases h
    by_cases hback : c = backslashChar
    · subst hback
      rcases eq_or_ne s [] with rfl | hs
      · -- the quote is escaped, and the literal ends behind it
        have hescape : readEscape (quoteChar :: t) = some ([quoteChar], t) := rfl
        rw [List.nil_append, readLiteral_backslash hescape] at h
        obtain ⟨p, hp, heq⟩ := Option.map_eq_some_iff.1 h
        have := length_lt_of_readLiteral hp
        rw [(Prod.mk.inj heq).2] at this
        exact absurd this (Nat.lt_irrefl _)
      have hescape := readEscape_append_quote hs
      cases hread : readEscape s with
      | none =>
        rw [readLiteral_backslash_eq_none (by rw [hescape, hread]; rfl)] at h
        cases h
      | some p =>
        obtain ⟨w, after⟩ := p
        have hread' : ∀ t, readEscape (s ++ quoteChar :: t) = some (w, after ++ quoteChar :: t) :=
          fun t => by rw [hescape, hread]; rfl
        rw [readLiteral_backslash (hread' t)] at h
        obtain ⟨q, hq, heq⟩ := Option.map_eq_some_iff.1 h
        obtain ⟨rfl, hrest⟩ := Prod.mk.inj heq
        have hlt := (readsEscape hread).length_lt
        rw [readLiteral_backslash (hread' t'),
          ih after.length (Nat.lt_succ_of_lt hlt) (v := q.1) (by rw [hq, ← hrest]) rfl]
        rfl
    · rw [readLiteral_cons hquote hnewline hback] at h ⊢
      obtain ⟨q, hq, heq⟩ := Option.map_eq_some_iff.1 h
      obtain ⟨rfl, hrest⟩ := Prod.mk.inj heq
      rw [ih s.length (Nat.lt_succ_self _) (v := q.1) (by rw [hq, ← hrest]) rfl]
      rfl

/-- The text is a literal, with the quote behind it as its closing one. -/
def SpellsLiteral (s : List Char) : Prop :=
  ∃ v, readLiteral (s ++ [quoteChar]) = some (v, [])

theorem spellsLiteral_iff {s : List Char} (t : List Char) :
    SpellsLiteral s ↔ ∃ v, readLiteral (s ++ quoteChar :: t) = some (v, t) :=
  exists_congr fun _ => ⟨fun h => readLiteral_behind h t, fun h => readLiteral_behind h []⟩

/-! ### Escaped quotes -/

/-- A backslash before each quote. -/
def escapeQuotes (s : List Char) : List Char :=
  s.flatMap fun c => if c = quoteChar then [backslashChar, quoteChar] else [c]

@[simp] theorem escapeQuotes_nil : escapeQuotes [] = [] :=
  rfl

theorem escapeQuotes_quote (s : List Char) :
    escapeQuotes (quoteChar :: s) = backslashChar :: quoteChar :: escapeQuotes s :=
  rfl

theorem escapeQuotes_cons {c : Char} (hc : c ≠ quoteChar) (s : List Char) :
    escapeQuotes (c :: s) = c :: escapeQuotes s := by
  rw [escapeQuotes, List.flatMap_cons, if_neg hc]
  rfl

theorem escapeQuotes_append (s t : List Char) :
    escapeQuotes (s ++ t) = escapeQuotes s ++ escapeQuotes t :=
  List.flatMap_append

/-- A text without quotes is left as it is. -/
theorem escapeQuotes_of_notMem {s : List Char} (hs : quoteChar ∉ s) : escapeQuotes s = s := by
  induction s with
  | nil => rfl
  | cons c s ih =>
    rw [List.mem_cons, not_or] at hs
    rw [escapeQuotes_cons (Ne.symm hs.1), ih hs.2]

theorem mem_of_mem_escapeQuotes {s : List Char} {c : Char} (hc : c ∈ escapeQuotes s)
    (hne : c ≠ backslashChar) : c ∈ s := by
  obtain ⟨a, ha, hc⟩ := List.mem_flatMap.1 hc
  split_ifs at hc with hq
  · rcases List.mem_cons.1 hc with rfl | hc
    · exact absurd rfl hne
    · rwa [List.mem_singleton.1 hc, ← hq]
  · rwa [List.mem_singleton.1 hc]

/-- A text without backslashes is read back. -/
theorem readLiteral_escapeQuotes {s : List Char} (hback : backslashChar ∉ s)
    (hnewline : newlineChar ∉ s) (rest : List Char) :
    readLiteral (escapeQuotes s ++ quoteChar :: rest) = some (s, rest) := by
  induction s with
  | nil => exact readLiteral_quote rest
  | cons c s ih =>
    rw [List.mem_cons, not_or] at hback hnewline
    have htail := ih hback.2 hnewline.2
    by_cases hquote : c = quoteChar
    · subst hquote
      have hescape : readEscape (quoteChar :: (escapeQuotes s ++ quoteChar :: rest)) =
          some ([quoteChar], escapeQuotes s ++ quoteChar :: rest) := rfl
      rw [escapeQuotes_quote, List.cons_append, List.cons_append, readLiteral_backslash hescape,
        htail]
      rfl
    · rw [escapeQuotes_cons hquote, List.cons_append,
        readLiteral_cons hquote (Ne.symm hnewline.1) (Ne.symm hback.1), htail]
      rfl

theorem spellsLiteral_escapeQuotes {s : List Char} (hback : backslashChar ∉ s)
    (hnewline : newlineChar ∉ s) : SpellsLiteral (escapeQuotes s) :=
  ⟨s, readLiteral_escapeQuotes hback hnewline []⟩

/-- What is neither a backslash nor a quote stands in the text itself. -/
theorem eq_append_of_escapeQuotes_eq {pre s t rest : List Char}
    (hpre : ∀ c ∈ pre, c ≠ backslashChar ∧ c ≠ quoteChar)
    (h : escapeQuotes s ++ quoteChar :: rest = pre ++ t) :
    ∃ s', s = pre ++ s' ∧ t = escapeQuotes s' ++ quoteChar :: rest := by
  induction pre generalizing s with
  | nil => exact ⟨s, rfl, h.symm⟩
  | cons c pre ih =>
    obtain ⟨hback, hquote⟩ := hpre c List.mem_cons_self
    cases s with
    | nil => exact absurd (List.cons.inj h).1.symm hquote
    | cons d s =>
      by_cases hd : d = quoteChar
      · subst hd
        exact absurd (List.cons.inj h).1.symm hback
      · rw [escapeQuotes_cons hd, List.cons_append, List.cons_append] at h
        obtain ⟨rfl, htail⟩ := List.cons.inj h
        obtain ⟨s', rfl, ht⟩ := ih (fun a ha => hpre a (List.mem_cons_of_mem d ha)) htail
        exact ⟨s', rfl, ht⟩

/-- What a backslash before an escaped text escapes. -/
theorem readsEscape_escapeQuotes {s w r rest : List Char}
    (h : ReadsEscape (escapeQuotes s ++ quoteChar :: rest) w r) :
    r = rest ∨ (∃ t, r = quoteChar :: (escapeQuotes t ++ quoteChar :: rest)) ∨
      ∃ pre t, s = pre ++ t ∧ pre ≠ [] ∧ w.length ≤ pre.length ∧
        r = escapeQuotes t ++ quoteChar :: rest := by
  generalize htext : escapeQuotes s ++ quoteChar :: rest = text at h
  cases h with
  | backslash =>
    cases s with
    | nil => exact absurd (List.cons.inj htext).1 (by decide)
    | cons c s =>
      by_cases hc : c = quoteChar
      · subst hc
        exact .inr (.inl ⟨s, (List.cons.inj htext).2.symm⟩)
      · rw [escapeQuotes_cons hc, List.cons_append] at htext
        exact .inr (.inr ⟨[c], s, rfl, List.cons_ne_nil c [], Nat.le_refl 1,
          (List.cons.inj htext).2.symm⟩)
  | quote =>
    cases s with
    | nil => exact .inl (List.cons.inj htext).2.symm
    | cons c s =>
      by_cases hc : c = quoteChar
      · subst hc
        exact absurd (List.cons.inj htext).1 (by decide)
      · rw [escapeQuotes_cons hc, List.cons_append] at htext
        exact absurd (List.cons.inj htext).1 hc
  | other _ hne hlen hpre =>
    obtain ⟨t, hs, hr⟩ := eq_append_of_escapeQuotes_eq hpre htext
    exact .inr (.inr ⟨_, t, hs, hne, hlen, hr⟩)

/-- Where the literal ends at its own quote, a backslash in the text costs a character: what it
escapes is a character of the text, a backslash that escapes a quote, or the closing quote. -/
theorem length_of_readLiteral_escapeQuotes {s v rest : List Char}
    (h : readLiteral (escapeQuotes s ++ quoteChar :: rest) = some (v, rest)) :
    v.length ≤ s.length ∧ (backslashChar ∈ s → v.length < s.length) := by
  induction hn : s.length using Nat.strong_induction_on generalizing s v with
  | _ n ih =>
  subst hn
  cases s with
  | nil =>
    rw [escapeQuotes_nil, List.nil_append, readLiteral_quote] at h
    obtain ⟨rfl, -⟩ := Prod.mk.inj (Option.some.inj h)
    exact ⟨Nat.le_refl 0, fun hmem => absurd hmem List.not_mem_nil⟩
  | cons c s =>
    have hlt : s.length < (c :: s).length := Nat.lt_succ_self _
    by_cases hquote : c = quoteChar
    · subst hquote
      have hescape : readEscape (quoteChar :: (escapeQuotes s ++ quoteChar :: rest)) =
          some ([quoteChar], escapeQuotes s ++ quoteChar :: rest) := rfl
      rw [escapeQuotes_quote, List.cons_append, List.cons_append, readLiteral_backslash hescape]
        at h
      obtain ⟨p, hp, heq⟩ := Option.map_eq_some_iff.1 h
      obtain ⟨rfl, hrest⟩ := Prod.mk.inj heq
      obtain ⟨hle, hstrict⟩ := ih _ hlt (v := p.1) (by rw [hp, ← hrest]) rfl
      refine ⟨Nat.succ_le_succ hle, fun hmem => Nat.succ_lt_succ (hstrict ?_)⟩
      exact (List.mem_cons.1 hmem).resolve_left (by decide)
    rw [escapeQuotes_cons hquote, List.cons_append] at h
    by_cases hback : c = backslashChar
    · subst hback
      cases hescape : readEscape (escapeQuotes s ++ quoteChar :: rest) with
      | none =>
        rw [readLiteral_backslash_eq_none hescape] at h
        cases h
      | some q =>
        obtain ⟨v, after⟩ := q
        rw [readLiteral_backslash hescape] at h
        obtain ⟨p, hp, heq⟩ := Option.map_eq_some_iff.1 h
        obtain ⟨rfl, hrest⟩ := Prod.mk.inj heq
        have hp : readLiteral after = some (p.1, rest) := by rw [hp, ← hrest]
        rcases readsEscape_escapeQuotes (readsEscape hescape) with
          hr | ⟨t, hr⟩ | ⟨pre, t, rfl, hne, hlen, hr⟩
        · -- the closing quoteChar is escaped, and the literal goes on behind it
          have := length_lt_of_readLiteral hp
          rw [hr] at this
          exact absurd this (Nat.lt_irrefl _)
        · -- a quoteChar of the text is not escaped, and the literal ends there
          rw [hr, readLiteral_quote] at hp
          have := congrArg List.length (Prod.mk.inj (Option.some.inj hp)).2
          rw [List.length_append, List.length_cons] at this
          omega
        · rw [hr] at hp
          have hpos := List.length_pos_iff.2 hne
          have hlength : (backslashChar :: (pre ++ t)).length = pre.length + t.length + 1 := by
            rw [List.length_cons, List.length_append]
          obtain ⟨hle, -⟩ := ih t.length (by omega) hp rfl
          rw [hlength, List.length_append]
          exact ⟨by omega, fun _ => by omega⟩
    by_cases hnewline : c = newlineChar
    · rw [hnewline, readLiteral_newline] at h
      cases h
    · rw [readLiteral_cons hquote hnewline hback] at h
      obtain ⟨p, hp, heq⟩ := Option.map_eq_some_iff.1 h
      obtain ⟨rfl, hrest⟩ := Prod.mk.inj heq
      obtain ⟨hle, hstrict⟩ := ih _ hlt (v := p.1) (by rw [hp, ← hrest]) rfl
      refine ⟨Nat.succ_le_succ hle, fun hmem => Nat.succ_lt_succ (hstrict ?_)⟩
      exact (List.mem_cons.1 hmem).resolve_left (Ne.symm hback)

/-- **An escaped text is read back iff it holds no backslash.** -/
theorem readLiteral_escapeQuotes_iff {s : List Char} (hnewline : newlineChar ∉ s)
    (rest : List Char) :
    readLiteral (escapeQuotes s ++ quoteChar :: rest) = some (s, rest) ↔ backslashChar ∉ s := by
  constructor
  · intro h hmem
    exact Nat.lt_irrefl _ ((length_of_readLiteral_escapeQuotes h).2 hmem)
  · intro hback
    exact readLiteral_escapeQuotes hback hnewline rest

end Vidix.Util
