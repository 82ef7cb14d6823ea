import EditorAnalysis.Proofs.Python.Lexeme
import Mathlib.Data.List.TakeWhile

/-!
# Numbers, names and operators as longest matches

What a number, a name and an operator may look like, said of whole texts, and that the lengths of
the tokenizer are those of the longest such text at the front. A decimal number is made of pieces;
each piece is read as far as it goes, and what follows it can begin no other piece, so reading the
pieces one after the other loses nothing.
-/

namespace EditorAnalysis
namespace Python

open Text

/-! ## Lengths and forms -/

/-- Whether a text of a form stands at the front. -/
def Begins (form : List Char → Prop) (rest : List Char) : Prop :=
  ∃ front, front <+: rest ∧ form front

/-- Whether a text is the longest one of a form at the front. -/
structure IsLongest (form : List Char → Prop) (text rest : List Char) : Prop where
  isFront : text <+: rest
  isForm : form text
  longest : ∀ other, other <+: rest → form other → other.length ≤ text.length

/-- Whether a length is that of the longest text of a form at the front. -/
structure Measures (form : List Char → Prop) (length : List Char → Nat) : Prop where
  here : ∀ rest, length rest ≠ 0 → form (rest.take (length rest))
  le : ∀ front back, form front → front.length ≤ length (front ++ back)

/-- Whether such a length passes over a text of the form only where a character of a class stands
behind it. -/
structure MeasuresUpTo (form : List Char → Prop) (length : List Char → Nat) (onward : Char → Prop) :
    Prop extends Measures form length where
  goesOn : ∀ front back, form front → front.length < length (front ++ back) →
    ∃ c more, back = c :: more ∧ onward c

namespace Measures

variable {form : List Char → Prop} {length : List Char → Nat} {rest : List Char}

theorem isLongest (h : Measures form length) (some_ : length rest ≠ 0)
    (inside : length rest ≤ rest.length) : IsLongest form (rest.take (length rest)) rest := by
  refine ⟨List.take_prefix _ _, h.here rest some_, ?_⟩
  rintro other ⟨back, rfl⟩ isForm
  rw [List.length_take, Nat.min_eq_left inside]
  exact h.le other back isForm

theorem begins_iff (h : Measures form length) (nonempty : ¬ form []) :
    Begins form rest ↔ length rest ≠ 0 := by
  constructor
  · rintro ⟨front, ⟨back, rfl⟩, isForm⟩ none_
    have within := h.le front back isForm
    rw [none_] at within
    rw [List.length_eq_zero_iff.1 (Nat.le_zero.1 within)] at isForm
    exact nonempty isForm
  · intro some_
    exact ⟨_, List.take_prefix _ _, h.here rest some_⟩

end Measures

/-! ## Pieces one after the other -/

/-- A text of one form and then one of another. -/
def Joined (first second : List Char → Prop) (text : List Char) : Prop :=
  ∃ front back, text = front ++ back ∧ first front ∧ second back

/-- The length of one piece, which has to be there, and of another behind it. -/
def joinedLength (first second : List Char → Nat) (rest : List Char) : Nat :=
  if first rest = 0 then 0 else first rest + second (rest.drop (first rest))

section

variable {first second : List Char → Prop} {firstLength secondLength : List Char → Nat}
  {onward later : Char → Prop}

/-- When the first piece goes on, the second one is not there. -/
theorem MeasuresUpTo.eq_nil_of_lt (h : MeasuresUpTo first firstLength onward)
    (apart : ∀ c text, onward c → ¬ second (c :: text)) {front middle back : List Char}
    (isFirst : first front) (isSecond : second middle)
    (long : front.length < firstLength (front ++ (middle ++ back))) :
    middle = [] ∧ ∃ c more, back = c :: more ∧ onward c := by
  rcases h.goesOn front (middle ++ back) isFirst long with ⟨c, more, behind, goesOn⟩
  cases middle with
  | nil => exact ⟨rfl, c, more, behind, goesOn⟩
  | cons d text =>
      cases behind
      exact absurd isSecond (apart _ text goesOn)

/-- Where two pieces stand, the length of both is that of the first and what is measured behind it,
unless the first goes on and the second is missing. -/
theorem MeasuresUpTo.joinedLength_append (h : MeasuresUpTo first firstLength onward)
    (required : ¬ first []) (apart : ∀ c text, onward c → ¬ second (c :: text))
    {front middle : List Char} (isFirst : first front) (isSecond : second middle)
    (back : List Char) (secondLength : List Char → Nat) :
    joinedLength firstLength secondLength (front ++ (middle ++ back)) =
        front.length + secondLength (middle ++ back) ∨
      (middle = [] ∧ (∃ c more, back = c :: more ∧ onward c) ∧
        front.length ≤ joinedLength firstLength secondLength (front ++ (middle ++ back))) := by
  have notZero : firstLength (front ++ (middle ++ back)) ≠ 0 :=
    (h.begins_iff required).1 ⟨front, List.prefix_append front _, isFirst⟩
  have least := h.le front (middle ++ back) isFirst
  rw [joinedLength, if_neg notZero]
  rcases Nat.eq_or_lt_of_le least with same | long
  · rw [← same, List.drop_left]
    exact .inl rfl
  · rcases h.eq_nil_of_lt apart isFirst isSecond long with ⟨none_, next⟩
    exact .inr ⟨none_, next, Nat.le_trans least (Nat.le_add_right _ _)⟩

/-- Two pieces are measured one after the other, when the second can not begin where the first goes
on. The second piece may be missing. -/
theorem MeasuresUpTo.joined (h : MeasuresUpTo first firstLength onward)
    (h' : MeasuresUpTo second secondLength later) (required : ¬ first []) (missing : second [])
    (apart : ∀ c text, onward c → ¬ second (c :: text)) :
    MeasuresUpTo (Joined first second) (joinedLength firstLength secondLength)
      (fun c => onward c ∨ later c) := by
  refine ⟨⟨?_, ?_⟩, ?_⟩
  · intro rest some_
    have notNone : firstLength rest ≠ 0 := fun none_ => some_ (if_pos none_)
    rw [joinedLength, if_neg notNone, List.take_add]
    refine ⟨_, _, rfl, h.here rest notNone, ?_⟩
    by_cases none_ : secondLength (rest.drop (firstLength rest)) = 0
    · rwa [none_, List.take_zero]
    · exact h'.here _ none_
  · rintro _ back ⟨front, middle, rfl, isFirst, isSecond⟩
    rw [List.append_assoc, List.length_append]
    rcases h.joinedLength_append required apart isFirst isSecond back secondLength
      with same | ⟨rfl, -, least⟩
    · rw [same]
      exact Nat.add_le_add_left (h'.le middle back isSecond) _
    · exact least
  · rintro _ back ⟨front, middle, rfl, isFirst, isSecond⟩ long
    rw [List.append_assoc, List.length_append] at long
    rcases h.joinedLength_append required apart isFirst isSecond back secondLength
      with same | ⟨-, ⟨c, more, behind, goesOn⟩, -⟩
    · rw [same] at long
      rcases h'.goesOn middle back isSecond (Nat.lt_of_add_lt_add_left long) with
        ⟨c, more, behind, goesOn⟩
      exact ⟨c, more, behind, .inr goesOn⟩
    · exact ⟨c, more, behind, .inl goesOn⟩

end

/-! ## Runs of characters -/

theorem runLength_cons {p : Char → Bool} {c : Char} (h : p c = true) (rest : List Char) :
    runLength p (c :: rest) = 1 + runLength p rest := by
  simp [runLength, h, Nat.add_comm]

theorem runLength_cons_of_not {p : Char → Bool} {c : Char} (h : p c = false) (rest : List Char) :
    runLength p (c :: rest) = 0 := by
  simp [runLength, h]

theorem runLength_append {p : Char → Bool} {front : List Char} (all : ∀ c ∈ front, p c = true)
    (back : List Char) : runLength p (front ++ back) = front.length + runLength p back := by
  rw [runLength, List.takeWhile_append_of_pos all, List.length_append, runLength]

theorem mem_take_runLength {p : Char → Bool} {rest : List Char} {c : Char}
    (hc : c ∈ rest.take (runLength p rest)) : p c = true := by
  have run : rest.take (runLength p rest) = rest.takeWhile p :=
    (List.prefix_iff_eq_take.1 (List.takeWhile_prefix p)).symm
  rw [run] at hc
  exact List.mem_takeWhile_imp hc

theorem exists_of_runLength_pos {p : Char → Bool} {rest : List Char} (h : 0 < runLength p rest) :
    ∃ c more, rest = c :: more ∧ p c = true := by
  cases rest with
  | nil => cases h
  | cons c more =>
      refine ⟨c, more, rfl, Decidable.byContradiction fun other => ?_⟩
      simp [runLength, other] at h

/-! ## Decimal numbers -/

/-- A digit, and then digits and underscores. -/
def IsDigits (text : List Char) : Prop :=
  ∃ d more, text = d :: more ∧ d.isDigit = true ∧ ∀ c ∈ more, isDigitPart c = true

/-- Digits, with or without a point and digits behind it, or a point in front of digits. -/
inductive IsMantissa : List Char → Prop where
  | whole {digits : List Char} : IsDigits digits → IsMantissa digits
  | fraction {digits more : List Char} :
      IsDigits digits → (∀ c ∈ more, isDigitPart c = true) → IsMantissa (digits ++ '.' :: more)
  | point {digits : List Char} : IsDigits digits → IsMantissa ('.' :: digits)

/-- A letter, a sign that may be missing, and digits; or nothing. -/
inductive IsExponent : List Char → Prop where
  | missing : IsExponent []
  | letter {e : Char} {sign digits : List Char} :
      e = 'e' ∨ e = 'E' → sign ∈ [[], ['+'], ['-']] → IsDigits digits →
      IsExponent (e :: sign ++ digits)

/-- The letter of an imaginary number, or nothing. -/
def IsImaginaryMark (text : List Char) : Prop :=
  text ∈ [[], ['j'], ['J']]

/-- A mantissa, an exponent that may be missing, and a mark that may be missing. -/
def IsDecimal : List Char → Prop :=
  Joined (Joined IsMantissa IsExponent) IsImaginaryMark

theorem isDigitPart_of_isDigit {c : Char} (h : c.isDigit = true) : isDigitPart c = true := by
  simp [isDigitPart, h]

theorem IsDigits.all {text : List Char} (h : IsDigits text) : ∀ c ∈ text, isDigitPart c = true := by
  rcases h with ⟨d, more, rfl, digit, digits⟩
  intro c hc
  rcases List.mem_cons.1 hc with rfl | later
  · exact isDigitPart_of_isDigit digit
  · exact digits c later

theorem isDigits_take {d : Char} (digit : d.isDigit = true) (rest : List Char) :
    IsDigits ((d :: rest).take (runLength isDigitPart (d :: rest))) := by
  rw [runLength_cons (isDigitPart_of_isDigit digit), Nat.add_comm, List.take_succ_cons]
  exact ⟨d, _, rfl, digit, fun c hc => mem_take_runLength hc⟩

theorem mantissaLength_of_isDigit {d : Char} (digit : d.isDigit = true) (rest : List Char) :
    mantissaLength (d :: rest) = runLength isDigitPart (d :: rest) +
      fractionLength ((d :: rest).drop (runLength isDigitPart (d :: rest))) := by
  simp only [mantissaLength, digit, if_true, runLength_cons (isDigitPart_of_isDigit digit)]

/-- Behind digits, a mantissa is measured by the digits and the fraction that follow. -/
theorem IsDigits.mantissaLength_append {digits : List Char} (h : IsDigits digits)
    (back : List Char) :
    mantissaLength (digits ++ back) = digits.length + runLength isDigitPart back +
      fractionLength (back.drop (runLength isDigitPart back)) := by
  have run := runLength_append h.all back
  rcases h with ⟨d, more, rfl, digit, digits⟩
  rw [List.cons_append] at run ⊢
  rw [mantissaLength_of_isDigit digit, run, ← List.cons_append, ← List.drop_drop, List.drop_left]

theorem mantissaLength_point {d : Char} (digit : d.isDigit = true) (rest : List Char) :
    mantissaLength ('.' :: d :: rest) = 1 + runLength isDigitPart (d :: rest) := by
  have notDigit : '.'.isDigit = false := by decide
  simp only [mantissaLength, notDigit, digit, Bool.false_eq_true, if_false, if_true,
    runLength_cons (isDigitPart_of_isDigit digit)]
  omega

theorem IsDigits.mantissaLength_point_append {digits : List Char} (h : IsDigits digits)
    (back : List Char) :
    mantissaLength ('.' :: (digits ++ back)) =
      1 + (digits.length + runLength isDigitPart back) := by
  rw [← runLength_append h.all]
  rcases h with ⟨d, more, rfl, digit, digits⟩
  exact mantissaLength_point digit _

theorem fractionLength_point (rest : List Char) :
    fractionLength ('.' :: rest) = 1 + runLength isDigitPart rest := by
  rw [fractionLength, if_pos rfl]

theorem exists_of_fractionLength_pos {rest : List Char} (h : 0 < fractionLength rest) :
    ∃ more, rest = '.' :: more := by
  cases rest with
  | nil => cases h
  | cons c more =>
      by_cases isPoint : c = '.'
      · exact ⟨more, by rw [isPoint]⟩
      · simp [fractionLength, isPoint] at h

/-- A mantissa that is measured begins with a digit, or with a point and a digit. -/
theorem exists_of_mantissaLength_ne_zero {rest : List Char} (h : mantissaLength rest ≠ 0) :
    ∃ d more, d.isDigit = true ∧ (rest = d :: more ∨ rest = '.' :: d :: more) := by
  cases rest with
  | nil => exact absurd rfl h
  | cons c rest =>
      by_cases digit : c.isDigit = true
      · exact ⟨c, rest, digit, .inl rfl⟩
      · by_cases isPoint : c = '.'
        · subst isPoint
          cases rest with
          | nil => exact absurd rfl h
          | cons d more =>
              refine ⟨d, more, of_not_not fun other => ?_, .inr rfl⟩
              simp [mantissaLength, digit, other] at h
        · simp [mantissaLength, digit, isPoint] at h

/-- What may stand behind a mantissa that could be longer. -/
def ExtendsMantissa (c : Char) : Prop :=
  isDigitPart c = true ∨ c = '.'

theorem isMantissa_take {rest : List Char} (h : mantissaLength rest ≠ 0) :
    IsMantissa (rest.take (mantissaLength rest)) := by
  rcases exists_of_mantissaLength_ne_zero h with ⟨d, more, digit, rfl | rfl⟩
  · have digits := isDigits_take digit more
    rw [mantissaLength_of_isDigit digit, List.take_add]
    rcases Nat.eq_zero_or_pos (fractionLength
      ((d :: more).drop (runLength isDigitPart (d :: more)))) with none_ | fraction
    · rw [none_, List.take_zero, List.append_nil]
      exact .whole digits
    · rcases exists_of_fractionLength_pos fraction with ⟨behind, point⟩
      rw [point, fractionLength_point, Nat.add_comm 1, List.take_succ_cons]
      exact .fraction digits fun c hc => mem_take_runLength hc
  · rw [mantissaLength_point digit, Nat.add_comm, List.take_succ_cons]
    exact .point (isDigits_take digit more)

theorem measuresUpTo_mantissa : MeasuresUpTo IsMantissa mantissaLength ExtendsMantissa := by
  have notDigitPart : isDigitPart '.' = false := by decide
  have goesOn {back : List Char} (run : 0 < runLength isDigitPart back) :
      ∃ c more, back = c :: more ∧ ExtendsMantissa c := by
    rcases exists_of_runLength_pos run with ⟨c, more, behind, digit⟩
    exact ⟨c, more, behind, .inl digit⟩
  have fraction {digits more : List Char} (isDigits : IsDigits digits)
      (all : ∀ c ∈ more, isDigitPart c = true) (back : List Char) :
      mantissaLength (digits ++ '.' :: more ++ back) =
        (digits ++ '.' :: more).length + runLength isDigitPart back := by
    rw [List.append_assoc, isDigits.mantissaLength_append, List.cons_append,
      runLength_cons_of_not notDigitPart, List.drop_zero, fractionLength_point,
      runLength_append all, List.length_append, List.length_cons]
    omega
  refine ⟨⟨fun rest => isMantissa_take, ?_⟩, ?_⟩
  · intro front back mantissa
    cases mantissa with
    | whole digits =>
        rw [digits.mantissaLength_append, Nat.add_assoc]
        exact Nat.le_add_right _ _
    | fraction digits all =>
        rw [fraction digits all]
        exact Nat.le_add_right _ _
    | point digits =>
        rw [List.cons_append, digits.mantissaLength_point_append, List.length_cons]
        omega
  · intro front back mantissa long
    -- What makes a mantissa longer is one more digit, or the point behind the digits.
    cases mantissa with
    | whole digits =>
        rw [digits.mantissaLength_append] at long
        rcases Nat.eq_zero_or_pos (runLength isDigitPart back) with none_ | run
        · rw [none_, List.drop_zero] at long
          rcases exists_of_fractionLength_pos (Nat.lt_add_right_iff_pos.1 long) with ⟨more, rfl⟩
          exact ⟨'.', more, rfl, .inr rfl⟩
        · exact goesOn run
    | fraction digits all =>
        rw [fraction digits all] at long
        exact goesOn (Nat.lt_add_right_iff_pos.1 long)
    | point digits =>
        rw [List.cons_append, digits.mantissaLength_point_append, List.length_cons] at long
        exact goesOn (by omega)

/-- A sign is read whole, when a digit follows. -/
theorem signLength_append {sign : List Char} (isSign : sign ∈ [[], ['+'], ['-']]) {d : Char}
    (digit : d.isDigit = true) (rest : List Char) :
    signLength (sign ++ d :: rest) = sign.length := by
  simp only [List.mem_cons, List.not_mem_nil, or_false] at isSign
  rcases isSign with rfl | rfl | rfl
  · have noSign : ¬ (d = '+' ∨ d = '-') := by
      rintro (rfl | rfl)
      · cases digit
      · cases digit
    simp [signLength, noSign]
  · rfl
  · rfl

theorem take_signLength_mem (rest : List Char) :
    rest.take (signLength rest) ∈ [[], ['+'], ['-']] := by
  cases rest with
  | nil => simp
  | cons c rest =>
      by_cases isSign : c = '+' ∨ c = '-'
      · simp [signLength, isSign]
      · simp [signLength, isSign]

theorem exponentLength_letter {e d : Char} {sign : List Char} (isLetter : e = 'e' ∨ e = 'E')
    (isSign : sign ∈ [[], ['+'], ['-']]) (digit : d.isDigit = true) (rest : List Char) :
    exponentLength (e :: sign ++ d :: rest) =
      (e :: sign).length + runLength isDigitPart (d :: rest) := by
  have letter : (decide (e = 'e') || decide (e = 'E')) = true := by simpa using isLetter
  simp only [List.cons_append, exponentLength, if_pos letter, signLength_append isSign digit,
    List.drop_left, if_pos digit, runLength_cons (isDigitPart_of_isDigit digit),
    List.length_cons]
  omega

/-- An exponent that is measured is a letter, a sign and digits. -/
theorem exists_of_exponentLength_ne_zero {rest : List Char} (h : exponentLength rest ≠ 0) :
    ∃ e sign d more, (e = 'e' ∨ e = 'E') ∧ sign ∈ [[], ['+'], ['-']] ∧ d.isDigit = true ∧
      rest = e :: sign ++ d :: more := by
  cases rest with
  | nil => exact absurd rfl h
  | cons e rest =>
      by_cases isLetter : e = 'e' ∨ e = 'E'
      · cases behind : rest.drop (signLength rest) with
        | nil => simp [exponentLength, behind] at h
        | cons d more =>
            refine ⟨e, rest.take (signLength rest), d, more, isLetter, take_signLength_mem rest,
              of_not_not fun other => ?_, ?_⟩
            · simp [exponentLength, behind, other] at h
            · rw [← behind, List.cons_append, List.take_append_drop]
      · simp [exponentLength, isLetter] at h

/-- What may stand behind an exponent that could be longer. -/
def ExtendsExponent (c : Char) : Prop :=
  isDigitPart c = true ∨ c = 'e' ∨ c = 'E'

theorem measuresUpTo_exponent : MeasuresUpTo IsExponent exponentLength ExtendsExponent := by
  have letter {e : Char} {sign digits : List Char} (isLetter : e = 'e' ∨ e = 'E')
      (isSign : sign ∈ [[], ['+'], ['-']]) (isDigits : IsDigits digits) (back : List Char) :
      exponentLength (e :: sign ++ digits ++ back) =
        (e :: sign ++ digits).length + runLength isDigitPart back := by
    have run := runLength_append isDigits.all back
    rcases isDigits with ⟨d, more, rfl, digit, -⟩
    rw [List.cons_append] at run
    rw [List.append_assoc]
    refine (exponentLength_letter isLetter isSign digit (more ++ back)).trans ?_
    rw [run, List.length_append, Nat.add_assoc]
  refine ⟨⟨?_, ?_⟩, ?_⟩
  · intro rest some_
    rcases exists_of_exponentLength_ne_zero some_ with
      ⟨e, sign, d, more, isLetter, isSign, digit, rfl⟩
    rw [exponentLength_letter isLetter isSign digit, List.take_append, List.take_of_length_le
      (Nat.le_add_right _ _), Nat.add_sub_cancel_left]
    exact .letter isLetter isSign (isDigits_take digit more)
  · intro front back exponent
    cases exponent with
    | missing => exact Nat.zero_le _
    | letter isLetter isSign digits =>
        rw [letter isLetter isSign digits]
        exact Nat.le_add_right _ _
  · intro front back exponent long
    cases exponent with
    | missing =>
        rcases exists_of_exponentLength_ne_zero (Nat.ne_of_gt long) with
          ⟨e, sign, d, more, isLetter, -, -, behind⟩
        exact ⟨e, _, behind, .inr isLetter⟩
    | letter isLetter isSign digits =>
        rw [letter isLetter isSign digits] at long
        rcases exists_of_runLength_pos (Nat.lt_add_right_iff_pos.1 long) with ⟨c, more, rfl, digit⟩
        exact ⟨c, more, rfl, .inl digit⟩

theorem measuresUpTo_imaginaryMark :
    MeasuresUpTo IsImaginaryMark imaginaryLength fun c => c = 'j' ∨ c = 'J' := by
  have exists_of_ne_zero {rest : List Char} (h : imaginaryLength rest ≠ 0) :
      ∃ c more, rest = c :: more ∧ (c = 'j' ∨ c = 'J') ∧ imaginaryLength rest = 1 := by
    cases rest with
    | nil => exact absurd rfl h
    | cons c more =>
        refine ⟨c, more, rfl, ?_⟩
        by_cases isMark : c = 'j' ∨ c = 'J'
        · exact ⟨isMark, by simp [imaginaryLength, isMark]⟩
        · simp [imaginaryLength, isMark] at h
  refine ⟨⟨?_, ?_⟩, ?_⟩
  · intro rest some_
    rcases exists_of_ne_zero some_ with ⟨c, more, rfl, isMark, length⟩
    rw [length]
    simpa [IsImaginaryMark] using isMark
  · intro front back isMark
    simp only [IsImaginaryMark, List.mem_cons, List.not_mem_nil, or_false] at isMark
    rcases isMark with rfl | rfl | rfl
    · exact Nat.zero_le _
    · exact Nat.le_refl 1
    · exact Nat.le_refl 1
  · intro front back isMark long
    simp only [IsImaginaryMark, List.mem_cons, List.not_mem_nil, or_false] at isMark
    rcases isMark with rfl | rfl | rfl
    · rcases exists_of_ne_zero (Nat.ne_of_gt long) with ⟨c, more, behind, isMark, -⟩
      exact ⟨c, more, behind, isMark⟩
    · exact absurd long (Nat.lt_irrefl 1)
    · exact absurd long (Nat.lt_irrefl 1)

theorem IsMantissa.ne_nil {text : List Char} (h : IsMantissa text) : text ≠ [] := by
  cases h with
  | whole digits =>
      rcases digits with ⟨d, more, rfl, -⟩
      exact List.cons_ne_nil _ _
  | fraction => simp
  | point => exact List.cons_ne_nil _ _

/-- An exponent begins with a character that makes no mantissa longer. -/
theorem not_isExponent_cons {c : Char} {text : List Char} (extends_ : ExtendsMantissa c) :
    ¬ IsExponent (c :: text) := by
  intro exponent
  cases exponent with
  | letter isLetter =>
      rcases isLetter with rfl | rfl
      · exact absurd extends_ (by unfold ExtendsMantissa; decide)
      · exact absurd extends_ (by unfold ExtendsMantissa; decide)

/-- A mark is a character that makes no mantissa and no exponent longer. -/
theorem not_isImaginaryMark_cons {c : Char} {text : List Char}
    (extends_ : ExtendsMantissa c ∨ ExtendsExponent c) : ¬ IsImaginaryMark (c :: text) := by
  intro isMark
  simp only [IsImaginaryMark, List.mem_cons, List.not_mem_nil, or_false, List.cons.injEq,
    reduceCtorEq, false_or] at isMark
  rcases isMark with ⟨rfl, -⟩ | ⟨rfl, -⟩
  · exact absurd extends_ (by unfold ExtendsMantissa ExtendsExponent; decide)
  · exact absurd extends_ (by unfold ExtendsMantissa ExtendsExponent; decide)

theorem decimalLength_eq_joinedLength :
    decimalLength =
      joinedLength (joinedLength mantissaLength exponentLength) imaginaryLength := by
  funext rest
  by_cases none_ : mantissaLength rest = 0
  · simp [decimalLength, joinedLength, none_]
  · simp [decimalLength, joinedLength, none_]

theorem not_joined_nil {first second : List Char → Prop} (required : ¬ first []) :
    ¬ Joined first second [] := by
  rintro ⟨front, back, empty, isFirst, -⟩
  rw [(List.append_eq_nil_iff.1 empty.symm).1] at isFirst
  exact required isFirst

/-- A decimal number is measured piece by piece. -/
theorem measures_decimal : Measures IsDecimal decimalLength := by
  have mantissa : ¬ IsMantissa [] := fun h => h.ne_nil rfl
  have real := measuresUpTo_mantissa.joined measuresUpTo_exponent mantissa .missing
    fun _ _ => not_isExponent_cons
  rw [decimalLength_eq_joinedLength]
  exact (real.joined measuresUpTo_imaginaryMark (not_joined_nil mantissa) (by simp [IsImaginaryMark])
    fun _ _ => not_isImaginaryMark_cons).toMeasures

/-! ## Numbers -/

/-- A number: zero, the letter of a radix, hexadecimal digits and underscores; or a decimal. -/
inductive IsNumber : List Char → Prop where
  | radix {letter : Char} {digits : List Char} :
      isRadixLetter letter = true → (∀ c ∈ digits, isHexDigitPart c = true) →
      IsNumber ('0' :: letter :: digits)
  | decimal {text : List Char} : IsDecimal text → IsNumber text

theorem not_isDecimal_nil : ¬ IsDecimal [] :=
  not_joined_nil (not_joined_nil fun h => h.ne_nil rfl)

theorem IsNumber.ne_nil {text : List Char} (h : IsNumber text) : text ≠ [] := by
  cases h with
  | radix => exact List.cons_ne_nil _ _
  | decimal isDecimal =>
      rintro rfl
      exact not_isDecimal_nil isDecimal

theorem numberLength_radix {letter : Char} (isRadix : isRadixLetter letter = true)
    (rest : List Char) :
    numberLength ('0' :: letter :: rest) = 2 + runLength isHexDigitPart rest := by
  simp [numberLength, isRadix]

/-- Where no radix stands, numbers are decimal. -/
theorem numberLength_of_not_radix {rest : List Char}
    (h : ∀ letter more, rest = '0' :: letter :: more → isRadixLetter letter = false) :
    numberLength rest = decimalLength rest := by
  match rest with
  | [] => rfl
  | [c] => rfl
  | c :: letter :: more =>
      have noRadix : (decide (c = '0') && isRadixLetter letter) = false := by
        by_cases zero : c = '0'
        · simp [h letter more (by rw [zero])]
        · simp [zero]
      simp [numberLength, noRadix]

/-- In front of the letter of a radix, a decimal number is a zero alone. -/
theorem decimalLength_radix {letter : Char} (isRadix : isRadixLetter letter = true)
    (rest : List Char) : decimalLength ('0' :: letter :: rest) = 1 := by
  simp only [isRadixLetter, Bool.or_eq_true, beq_iff_eq, or_assoc] at isRadix
  rcases isRadix with rfl | rfl | rfl | rfl | rfl | rfl <;> rfl

/-- Whether a number in another radix stands at the front. -/
theorem radix_or_numberLength_eq (rest : List Char) :
    (∃ letter more, rest = '0' :: letter :: more ∧ isRadixLetter letter = true) ∨
      numberLength rest = decimalLength rest := by
  by_cases radix : ∃ letter more, rest = '0' :: letter :: more ∧ isRadixLetter letter = true
  · exact .inl radix
  · refine .inr (numberLength_of_not_radix fun letter more front => ?_)
    exact eq_false_of_ne_true fun isRadix => radix ⟨letter, more, front, isRadix⟩

theorem measures_number : Measures IsNumber numberLength := by
  constructor
  · intro rest some_
    rcases radix_or_numberLength_eq rest with ⟨letter, more, rfl, isRadix⟩ | isDecimal
    · rw [numberLength_radix isRadix, Nat.add_comm]
      exact .radix isRadix fun c hc => mem_take_runLength hc
    · rw [isDecimal] at some_ ⊢
      exact .decimal (measures_decimal.here rest some_)
  · intro front back number
    cases number with
    | radix isRadix digits =>
        rw [List.cons_append, List.cons_append, numberLength_radix isRadix,
          runLength_append digits, List.length_cons, List.length_cons]
        omega
    | decimal isDecimal =>
        have within := measures_decimal.le front back isDecimal
        rcases radix_or_numberLength_eq (front ++ back) with ⟨letter, more, whole, isRadix⟩ | same
        · rw [whole, decimalLength_radix isRadix] at within
          rw [whole, numberLength_radix isRadix]
          omega
        · rwa [same]

example : ["0x_ff+", "1_000.5e-3j ", ".5)", "7e", "3.", ".x"].map (numberLength ·.toList) =
    [5, 11, 2, 1, 2, 0] := by
  decide

/-! ## Names and operators -/

/-- A character that an identifier may begin with, and then such as it may go on with. -/
def IsName (text : List Char) : Prop :=
  ∃ c more, text = c :: more ∧ isIdentifierStart c = true ∧
    ∀ d ∈ more, isIdentifierContinue d = true

theorem measures_name : Measures IsName nameLength := by
  constructor
  · intro rest some_
    cases rest with
    | nil => exact absurd rfl some_
    | cons c rest =>
        by_cases start : isIdentifierStart c = true
        · rw [nameLength, if_pos start, Nat.add_comm, List.take_succ_cons]
          exact ⟨c, _, rfl, start, fun d hd => mem_take_runLength hd⟩
        · exact absurd (if_neg start) some_
  · rintro _ back ⟨c, more, rfl, start, all⟩
    rw [List.cons_append, nameLength, if_pos start, runLength_append all, List.length_cons]
    omega

theorem IsName.append_singleton {text : List Char} (h : IsName text) {d : Char}
    (goesOn : isIdentifierContinue d = true) : IsName (text ++ [d]) := by
  rcases h with ⟨c, more, rfl, start, all⟩
  refine ⟨c, more ++ [d], rfl, start, ?_⟩
  intro e he
  rcases List.mem_append.1 he with inMore | last
  · exact all e inMore
  · rwa [List.mem_singleton.1 last]

/-- Behind the longest name stands nothing that would go on with it. -/
theorem IsLongest.not_isIdentifierContinue {text rest : List Char} (h : IsLongest IsName text rest)
    {d : Char} (behind : rest[text.length]? = some d) : isIdentifierContinue d = false := by
  refine eq_false_of_ne_true fun goesOn => ?_
  have longer : text ++ [d] <+: rest := by
    rcases h.isFront with ⟨back, rfl⟩
    rw [List.getElem?_append_right (Nat.le_refl _), Nat.sub_self] at behind
    cases back with
    | nil => cases behind
    | cons e more =>
        cases behind
        exact ⟨more, by simp⟩
  have within := h.longest _ longer (h.isForm.append_singleton goesOn)
  rw [List.length_append] at within
  exact Nat.not_succ_le_self _ within

/-- Longer operators come first in the list. -/
theorem pairwise_operators : operators.Pairwise fun a b => b.length ≤ a.length := by
  decide

theorem measures_operator : Measures (· ∈ operators) operatorLength := by
  constructor
  · intro rest some_
    rw [operatorLength] at some_ ⊢
    cases found : operators.find? (·.isPrefixOf rest) with
    | none => simp [found] at some_
    | some op =>
        have front : op <+: rest := by simpa using List.find?_some found
        rw [← List.prefix_iff_eq_take.1 front]
        exact List.mem_of_find?_eq_some found
  · intro front back isOperator
    have isFront : front.isPrefixOf (front ++ back) = true :=
      List.isPrefixOf_iff_prefix.2 (List.prefix_append front back)
    rw [operatorLength]
    cases found : operators.find? (·.isPrefixOf (front ++ back)) with
    | none => exact absurd isFront (List.find?_eq_none.1 found front isOperator)
    | some op =>
        -- What stands before the operator that was found is at no front.
        rcases List.find?_eq_some_iff_append.1 found with ⟨-, before, after, split, none_⟩
        rw [split] at isOperator
        rcases List.mem_append.1 isOperator with earlier | here
        · have passed := none_ front earlier
          simp [isFront] at passed
        · have sorted := pairwise_operators
          rw [split] at sorted
          rcases List.mem_cons.1 here with rfl | later
          · exact Nat.le_refl _
          · exact (List.pairwise_cons.1 (List.pairwise_append.1 sorted).2.1).1 front later

end Python
end EditorAnalysis
