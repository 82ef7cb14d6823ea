import EditorAnalysis.CommandLine.Replacement
import EditorAnalysis.Proofs.Text.Trim

/-!
# What is a line replacement

The texts that are read as a replacement, said without the reader: a number between white space, in
front of the first equals sign, and any text behind it. The number may have a plus sign and leading
zeros, and fits into a 64-bit word.
-/

namespace EditorAnalysis
namespace CommandLine

open Text

/-! ## Numbers -/

/-- Decimal digits, of which there is at least one, and the number they stand for. -/
structure IsDecimal (digits : List Char) (n : Nat) : Prop where
  some_ : digits ≠ []
  areDigits : ∀ c ∈ digits, c.isDigit = true
  value : Nat.ofDigitChars 10 digits 0 = n

/-- The spellings of a number: decimal digits, perhaps with a plus sign in front. -/
inductive SpellsWord : List Char → Nat → Prop where
  | unsigned {digits : List Char} {n : Nat} : IsDecimal digits n → SpellsWord digits n
  | signed {digits : List Char} {n : Nat} : IsDecimal digits n → SpellsWord ('+' :: digits) n

/-- More digits never make a number smaller. -/
theorem le_ofDigitChars (n : Nat) (cs : List Char) : n ≤ Nat.ofDigitChars 10 cs n := by
  induction cs generalizing n with
  | nil => exact Nat.le_refl n
  | cons c cs ih =>
      rw [Nat.ofDigitChars_cons]
      exact Nat.le_trans (by omega) (ih _)

/-- Digits are read as long as the number that they make so far fits into a word; since it only
grows, that is to say that the whole number fits. -/
theorem readDigits_eq_ok_iff {n value : Nat} {cs : List Char} (fits : n ≤ maxWord) :
    readDigits n cs = .ok value ↔
      (∀ c ∈ cs, c.isDigit = true) ∧ Nat.ofDigitChars 10 cs n = value ∧ value ≤ maxWord := by
  induction cs generalizing n with
  | nil =>
      rw [readDigits, Nat.ofDigitChars_nil, Except.ok.injEq]
      exact ⟨fun same => ⟨by simp, same, same ▸ fits⟩, fun h => h.2.1⟩
  | cons c cs ih =>
      rw [readDigits, Nat.ofDigitChars_cons, List.forall_mem_cons]
      cases isDigit : c.isDigit with
      | false => simp
      | true =>
          by_cases tooLarge : maxWord < 10 * n + (c.toNat - '0'.toNat)
          · have grows := le_ofDigitChars (10 * n + (c.toNat - '0'.toNat)) cs
            simp only [Bool.not_true, Bool.false_eq_true, if_false, if_pos tooLarge, reduceCtorEq,
              false_iff]
            rintro ⟨-, rfl, wholeFits⟩
            omega
          · simp only [Bool.not_true, Bool.false_eq_true, if_false, if_neg tooLarge, true_and]
            exact ih (Nat.le_of_not_lt tooLarge)

theorem not_isDecimal_signed {c : Char} {rest : List Char} {n : Nat} (isSign : c = '+' ∨ c = '-') :
    ¬ IsDecimal (c :: rest) n := by
  intro h
  have isDigit := h.areDigits c List.mem_cons_self
  rcases isSign with rfl | rfl
  · cases isDigit
  · cases isDigit

/-- A sign alone is no number, and nothing but a digit follows a sign. -/
theorem spellsWord_cons_iff {c : Char} {rest : List Char} {n : Nat} :
    SpellsWord (c :: rest) n ↔
      ¬ (rest = [] ∧ (c = '+' ∨ c = '-')) ∧ IsDecimal (if c = '+' then rest else c :: rest) n := by
  constructor
  · rintro (decimal | decimal)
    · have notPlus : c ≠ '+' := fun isPlus => not_isDecimal_signed (.inl isPlus) decimal
      rw [if_neg notPlus]
      exact ⟨fun alone => not_isDecimal_signed alone.2 decimal, decimal⟩
    · rw [if_pos rfl]
      exact ⟨fun alone => decimal.some_ alone.1, decimal⟩
  · rintro ⟨-, decimal⟩
    split at decimal
    case isTrue isPlus => exact isPlus ▸ .signed decimal
    case isFalse => exact .unsigned decimal

/-- A word is read from its spellings and from nothing else. -/
theorem readWord_eq_ok_iff {cs : List Char} {n : Nat} :
    readWord cs = .ok n ↔ SpellsWord cs n ∧ n ≤ maxWord := by
  cases cs with
  | nil =>
      simp only [readWord, reduceCtorEq, false_iff]
      rintro ⟨spells, -⟩
      cases spells with
      | unsigned decimal => exact decimal.some_ rfl
  | cons c rest =>
      rw [readWord, spellsWord_cons_iff]
      by_cases alone : rest = [] ∧ (c = '+' ∨ c = '-')
      · rw [if_pos alone]
        exact iff_of_false (by simp) fun h => h.1.1 alone
      · have some_ : (if c = '+' then rest else c :: rest) ≠ [] := by
          split
          case isTrue isPlus => exact fun none_ => alone ⟨none_, .inl isPlus⟩
          case isFalse => exact List.cons_ne_nil c rest
        rw [if_neg alone, readDigits_eq_ok_iff (Nat.zero_le _)]
        constructor
        · rintro ⟨areDigits, value, fits⟩
          exact ⟨⟨alone, some_, areDigits, value⟩, fits⟩
        · rintro ⟨⟨-, decimal⟩, fits⟩
          exact ⟨decimal.areDigits, decimal.value, fits⟩

theorem spellsWord_toDigits (n : Nat) : SpellsWord (Nat.toDigits 10 n) n :=
  .unsigned ⟨Nat.toDigits_ne_nil,
    fun _ inDigits => Nat.isDigit_of_mem_toDigits (by decide) (by decide) inDigits,
    Nat.ofDigitChars_ten_toDigits⟩

/-! ## Replacements -/

namespace Replacement

/-- A replacement of a line, counted from one, as it is written: the number of the line, perhaps
with white space around it, the first equals sign, and the text. -/
structure IsWritten (raw : String) (number : Nat) (text : String) : Prop where
  parts : ∃ front core, raw.toList = front ++ '=' :: text.toList ∧ '=' ∉ front ∧
    IsTrimmed (isWhiteSpace · = true) front core ∧ SpellsWord core number
  positive : 1 ≤ number
  fits : number ≤ maxWord

variable {raw text : String} {front back : List Char} {number line : Nat}

theorem parse_of_not_mem (none_ : '=' ∉ raw.toList) : parse raw = .error (.noEquals raw) := by
  have others : ∀ c ∈ raw.toList, (c != '=') = true :=
    fun c inText => bne_iff_ne.2 fun isEquals => none_ (isEquals ▸ inText)
  rw [parse, List.dropWhile_eq_nil_iff.2 others]

/-- Only what stands in front of the first equals sign is read as a number. -/
theorem parse_of_eq_append (split_ : raw.toList = front ++ '=' :: back) (first : '=' ∉ front) :
    parse raw = match readWord (trim isWhiteSpace front) with
      | .error fault => .error (.badNumber (String.ofList front) fault)
      | .ok 0 => .error .lineZero
      | .ok (line + 1) => .ok ⟨line, String.ofList back⟩ := by
  have others : ∀ c ∈ front, (c != '=') = true :=
    fun c inFront => bne_iff_ne.2 fun isEquals => first (isEquals ▸ inFront)
  have number : raw.toList.takeWhile (· != '=') = front := by
    rw [split_, List.takeWhile_append_of_pos others, List.takeWhile_cons_of_neg (by decide),
      List.append_nil]
  have behind : raw.toList.dropWhile (· != '=') = '=' :: back := by
    rw [split_, List.dropWhile_append_of_pos others, List.dropWhile_cons_of_neg (by decide)]
  cases value : readWord (trim isWhiteSpace front) with
  | error fault => simp only [parse, number, behind, value]
  | ok n =>
      cases n with
      | zero => simp only [parse, number, behind, value]
      | succ line => simp only [parse, number, behind, value]

/-- Whatever is read as a replacement is written as one. -/
theorem isWritten_of_parse (found : parse raw = .ok ⟨line, text⟩) :
    IsWritten raw (line + 1) text := by
  by_cases equals : '=' ∈ raw.toList
  · rcases List.eq_append_cons_of_mem equals with ⟨front, back, split_, first⟩
    rw [parse_of_eq_append split_ first] at found
    split at found
    · cases found
    · cases found
    · next isWord =>
        cases found
        rcases readWord_eq_ok_iff.1 isWord with ⟨spells, fits⟩
        refine ⟨⟨front, _, ?_, first, (trim_eq_iff fun _ => Iff.rfl).1 rfl, spells⟩,
          Nat.succ_pos _, fits⟩
        rw [String.toList_ofList, split_]
  · rw [parse_of_not_mem equals] at found
    cases found

/-- Whatever is written as a replacement is read as it. -/
theorem IsWritten.parse_eq (h : IsWritten raw number text) :
    parse raw = .ok ⟨number - 1, text⟩ := by
  rcases h.parts with ⟨front, core, split_, first, trimmed, spells⟩
  have isWord : readWord (trim isWhiteSpace front) = .ok number := by
    rw [(trim_eq_iff fun _ => Iff.rfl).2 trimmed]
    exact readWord_eq_ok_iff.2 ⟨spells, h.fits⟩
  rw [parse_of_eq_append split_ first, isWord]
  cases number with
  | zero => exact absurd h.positive (Nat.not_succ_le_zero 0)
  | succ line =>
      rw [String.ofList_toList]
      rfl

theorem not_isWhiteSpace_of_isDigit {c : Char} (isDigit : c.isDigit = true) :
    ¬ isWhiteSpace c = true := by
  have inRange : 48 ≤ c.toNat ∧ c.toNat ≤ 57 := Char.isDigit_iff_toNat.1 isDigit
  simp only [isWhiteSpace, Bool.or_eq_true, Bool.and_eq_true, decide_eq_true_eq, beq_iff_eq]
  omega

/-- The plainest way to write a replacement. -/
theorem isWritten_toString (positive : 1 ≤ number) (fits : number ≤ maxWord) (text : String) :
    IsWritten (toString number ++ "=" ++ text) number text := by
  have digits : ∀ c ∈ Nat.toDigits 10 number, c.isDigit = true :=
    fun _ inDigits => Nat.isDigit_of_mem_toDigits (by decide) (by decide) inDigits
  refine ⟨⟨Nat.toDigits 10 number, Nat.toDigits 10 number, ?_, ?_, ?_, spellsWord_toDigits number⟩,
    positive, fits⟩
  · simp only [String.toList_append, Nat.toString_eq_repr, Nat.toList_repr]
    exact List.append_assoc _ _ _
  · exact fun equals => absurd (digits _ equals) (by decide)
  · exact ⟨⟨[], [], by simp⟩,
      fun c isFirst => not_isWhiteSpace_of_isDigit (digits c (List.mem_of_head? isFirst)),
      fun c isLast => not_isWhiteSpace_of_isDigit (digits c (List.mem_of_getLast? isLast))⟩

/-- A text is read as a replacement just when it is written as one, and then line and text are
those that are written; any other text is refused. The number of a line in decimal, an equals sign
and any text, with or without equals signs of its own, is one way to write a replacement. -/
theorem parse_accepts_written :
    (∀ (raw text : String) (line : Nat),
      parse raw = .ok ⟨line, text⟩ ↔ IsWritten raw (line + 1) text) ∧
      (∀ raw : String,
        (∃ fault, parse raw = .error fault) ↔ ¬ ∃ number text, IsWritten raw number text) ∧
      ∀ (number : Nat) (text : String), 1 ≤ number → number ≤ maxWord →
        parse (toString number ++ "=" ++ text) = .ok ⟨number - 1, text⟩ := by
  refine ⟨fun raw text line => ⟨isWritten_of_parse, IsWritten.parse_eq⟩, fun raw => ?_,
    fun number text positive fits => (isWritten_toString positive fits text).parse_eq⟩
  constructor
  · rintro ⟨fault, refused⟩ ⟨number, text, written⟩
    rw [written.parse_eq] at refused
    cases refused
  · intro other
    cases found : parse raw with
    | error fault => exact ⟨fault, rfl⟩
    | ok r => exact absurd ⟨_, _, isWritten_of_parse found⟩ other

/-- White space, a sign and zeros around the number do not count, and of two equals signs the second
is text. The greatest line is the last that a word can count. -/
theorem parse_accepts_written_greatest :
    IsWritten "\u3000+007\t=a=b" 7 "a=b" ∧
      (1 ≤ maxWord ∧ maxWord ≤ maxWord ∧
        parse (toString maxWord ++ "=" ++ "=") = .ok ⟨18446744073709551614, "="⟩) ∧
      ∃ fault, parse "18446744073709551616=" = .error fault := by
  rcases parse_accepts_written with ⟨accepts, -, plain⟩
  have positive : 1 ≤ maxWord := by decide
  refine ⟨(accepts _ _ 6).1 (by decide +kernel), ⟨positive, Nat.le_refl _, ?_⟩, _, by rfl⟩
  exact plain maxWord "=" positive (Nat.le_refl _)

end Replacement
end CommandLine
end EditorAnalysis
