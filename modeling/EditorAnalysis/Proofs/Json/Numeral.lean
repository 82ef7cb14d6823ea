import EditorAnalysis.Json.Lexeme

/-!
# Written numbers

A number that is written is found again at the front of a text, as long as nothing follows that
would go on with it: no digit, no point and no mark of an exponent.
-/

namespace EditorAnalysis
namespace Json

variable {cs rest : List Char} {n : Nat}

/-! ## Digits -/

/-- Characters that do not go on with the digits in front of them. -/
def StopsDigits (rest : List Char) : Prop :=
  ∀ c, rest.head? = some c → c.isDigit = false

/-- Characters that do not go on with the number in front of them. -/
def StopsNumeral (rest : List Char) : Prop :=
  ∀ c, rest.head? = some c → c.isDigit = false ∧ c ≠ '.' ∧ c ≠ 'e' ∧ c ≠ 'E'

theorem StopsNumeral.stopsDigits (h : StopsNumeral rest) : StopsDigits rest :=
  fun c front => (h c front).1

theorem stopsNumeral_nil : StopsNumeral [] := by
  intro c front
  cases front

theorem isDigit_of_mem_digits {c : Char} (inDigits : c ∈ Numeral.digits n) : c.isDigit = true :=
  Nat.isDigit_of_mem_toDigits (by decide) (by decide) inDigits

theorem digits_ne_nil (n : Nat) : Numeral.digits n ≠ [] :=
  Nat.toDigits_ne_nil

theorem exists_digits_eq_cons (n : Nat) :
    ∃ d ds, Numeral.digits n = d :: ds ∧ d.isDigit = true := by
  cases digits : Numeral.digits n with
  | nil => exact absurd digits (digits_ne_nil n)
  | cons d ds =>
      refine ⟨d, ds, rfl, isDigit_of_mem_digits (n := n) ?_⟩
      rw [digits]
      exact List.mem_cons_self

/-- Only the number zero begins with a zero. -/
theorem head?_digits_ne_zero (positive : 0 < n) : (Numeral.digits n).head? ≠ some '0' := by
  rw [Numeral.digits]
  induction n using Nat.strongRecOn with
  | ind n ih =>
      rcases Nat.lt_or_ge n 10 with small | large
      · rw [Nat.toDigits_of_lt_base small]
        have others : ∀ k < 10, 0 < k → k.digitChar ≠ '0' := by decide
        simpa using others n small positive
      · -- The first digit is that of the number without its last digit.
        have front := ih (n / 10) (by omega) (by omega)
        rw [Nat.toDigits_of_base_le (by decide) large]
        cases digits : Nat.toDigits 10 (n / 10) with
        | nil => exact absurd digits Nat.toDigits_ne_nil
        | cons d ds =>
            rw [digits] at front
            exact front

theorem digitsValue_digits (n : Nat) : digitsValue (Numeral.digits n) = n :=
  Nat.ofDigitChars_ten_toDigits

theorem takeWhile_isDigit (areDigits : ∀ c ∈ cs, c.isDigit = true) (stops : StopsDigits rest) :
    (cs ++ rest).takeWhile Char.isDigit = cs := by
  rw [List.takeWhile_append_of_pos areDigits]
  cases rest with
  | nil => exact List.append_nil cs
  | cons c rest => rw [List.takeWhile_cons_of_neg (by simp [stops c rfl]), List.append_nil]

/-! ## The parts of a number -/

theorem scanWhole_digits (n : Nat) (stops : StopsDigits rest) :
    scanWhole (Numeral.digits n ++ rest) = .ok (n, rest) := by
  have alone : ¬ ((Numeral.digits n).head? = some '0' ∧ (Numeral.digits n).length ≠ 1) := by
    rintro ⟨zero, long⟩
    cases n with
    | zero => exact long rfl
    | succ n => exact head?_digits_ne_zero (Nat.succ_pos n) zero
  simp only [scanWhole, takeWhile_isDigit (fun _ => isDigit_of_mem_digits) stops,
    if_neg (digits_ne_nil n), if_neg alone, List.drop_left, digitsValue_digits]

theorem isDigit_digitChar (d : Fin 10) : (Nat.digitChar d.val).isDigit = true := by
  revert d
  decide

theorem digitOf_comp_digitChar : (digitOf ∘ fun d : Fin 10 => Nat.digitChar d.val) = id := by
  have back : ∀ d : Fin 10, digitOf (Nat.digitChar d.val) = d := by decide
  exact funext back

/-- The spelling of a fraction; without digits there is none. -/
def fractionText (ds : List (Fin 10)) : List Char :=
  if ds = [] then [] else '.' :: ds.map fun d => Nat.digitChar d.val

/-- The spelling of an exponent, if there is one. -/
def exponentText : Option Int → List Char
  | none => []
  | some (.ofNat e) => 'e' :: Numeral.digits e
  | some (.negSucc e) => 'e' :: '-' :: Numeral.digits (e + 1)

theorem scanFraction_fractionText (ds : List (Fin 10)) (stops : StopsDigits rest)
    (noPoint : rest.head? ≠ some '.') :
    scanFraction (fractionText ds ++ rest) = .ok (ds, rest) := by
  by_cases none_ : ds = []
  · subst none_
    cases rest with
    | nil => rfl
    | cons c rest => exact if_neg fun isPoint => noPoint (congrArg some isPoint)
  · have areDigits : ∀ c ∈ ds.map fun d => Nat.digitChar d.val, c.isDigit = true := by
      intro c inDigits
      rcases List.mem_map.1 inDigits with ⟨d, -, rfl⟩
      exact isDigit_digitChar d
    simp only [fractionText, if_neg none_, List.cons_append, scanFraction, if_true,
      takeWhile_isDigit areDigits stops, List.map_eq_nil_iff, List.drop_left, List.map_map,
      digitOf_comp_digitChar, List.map_id]

/-- A number is scanned as an exponent behind a sign, and without one as well. -/
theorem withoutSign_digits (n : Nat) (rest : List Char) :
    withoutSign (Numeral.digits n ++ rest) = Numeral.digits n ++ rest ∧
      (Numeral.digits n ++ rest).head? ≠ some '-' := by
  rcases exists_digits_eq_cons n with ⟨d, ds, digits, isDigit⟩
  have noSign : ¬ (d = '+' ∨ d = '-') := by
    rintro (rfl | rfl)
    · cases isDigit
    · cases isDigit
  rw [digits]
  exact ⟨if_neg noSign, fun isMinus => noSign (.inr (Option.some.inj isMinus))⟩

theorem scanExponent_exponentText (e : Option Int) (stops : StopsNumeral rest) :
    scanExponent (exponentText e ++ rest) = .ok (e, rest) := by
  match e with
  | none =>
      cases rest with
      | nil => rfl
      | cons c rest =>
          refine if_neg ?_
          rintro (isMark | isMark)
          · exact (stops c rfl).2.2.1 isMark
          · exact (stops c rfl).2.2.2 isMark
  | some (.ofNat e) =>
      rcases withoutSign_digits e rest with ⟨unsigned, noMinus⟩
      simp only [exponentText, List.cons_append, scanExponent, true_or, if_true, unsigned,
        takeWhile_isDigit (fun _ => isDigit_of_mem_digits) stops.stopsDigits,
        if_neg (digits_ne_nil e), if_neg noMinus, List.drop_left, digitsValue_digits]
      rfl
  | some (.negSucc e) =>
      have unsigned (cs : List Char) : withoutSign ('-' :: cs) = cs := rfl
      simp only [exponentText, List.cons_append, scanExponent, true_or, if_true, unsigned,
        takeWhile_isDigit (fun _ => isDigit_of_mem_digits) stops.stopsDigits,
        if_neg (digits_ne_nil (e + 1)), List.head?_cons, List.drop_left, digitsValue_digits]
      rfl

/-! ## Whole numbers -/

theorem render_eq (n : Numeral) :
    n.render = (if n.negative then ['-'] else []) ++ (Numeral.digits n.whole ++
      (fractionText n.fraction ++ exponentText n.exponent)) := by
  rw [Numeral.render, List.append_assoc, List.append_assoc]
  rcases n.exponent with _ | e | e
  · rfl
  · rfl
  · rfl

theorem stopsDigits_cons {c : Char} (isOther : c.isDigit = false) : StopsDigits (c :: rest) := by
  rintro d front
  rwa [← Option.some.inj front]

/-- Neither digits nor a point stand at the front of an exponent and what follows it. -/
theorem exponentText_stops (e : Option Int) (stops : StopsNumeral rest) :
    StopsDigits (exponentText e ++ rest) ∧ (exponentText e ++ rest).head? ≠ some '.' := by
  rcases e with _ | e | e
  · exact ⟨stops.stopsDigits, fun isPoint => (stops '.' isPoint).2.1 rfl⟩
  · exact ⟨stopsDigits_cons rfl, by simp [exponentText]⟩
  · exact ⟨stopsDigits_cons rfl, by simp [exponentText]⟩

theorem fractionText_stops (ds : List (Fin 10)) (stops : StopsDigits rest) :
    StopsDigits (fractionText ds ++ rest) := by
  by_cases none_ : ds = []
  · rwa [fractionText, if_pos none_, List.nil_append]
  · rw [fractionText, if_neg none_]
    exact stopsDigits_cons rfl

/-- A number that is written is found as the front of the text that it is written into. -/
theorem scanNumeral_render (n : Numeral) (stops : StopsNumeral rest) :
    scanNumeral (n.render ++ rest) = .ok (n, rest) := by
  rcases exponentText_stops n.exponent stops with ⟨stopsFraction, noPoint⟩
  have stopsWhole := fractionText_stops n.fraction stopsFraction
  rcases exists_digits_eq_cons n.whole with ⟨d, ds, digits, isDigit⟩
  have noMinus : d ≠ '-' := by
    rintro rfl
    cases isDigit
  -- The digits behind the sign, whether there is one or not.
  have unsigned : withoutMinus (n.render ++ rest) = Numeral.digits n.whole ++
      (fractionText n.fraction ++ (exponentText n.exponent ++ rest)) := by
    rw [render_eq]
    cases n.negative with
    | true => simp [withoutMinus]
    | false => simp [withoutMinus, digits, noMinus]
  have sign : decide ((n.render ++ rest).head? = some '-') = n.negative := by
    rw [render_eq]
    cases n.negative with
    | true => rfl
    | false => simp [digits, noMinus]
  simp only [scanNumeral, unsigned, scanWhole_digits n.whole stopsWhole,
    scanFraction_fractionText n.fraction stopsFraction noPoint,
    scanExponent_exponentText n.exponent stops, sign, bind, Except.bind, pure, Except.pure]

theorem exists_render_eq_cons (n : Numeral) :
    ∃ c cs, n.render = c :: cs ∧ (c = '-' ∨ c.isDigit = true) := by
  rcases exists_digits_eq_cons n.whole with ⟨d, ds, digits, isDigit⟩
  rw [render_eq]
  cases n.negative with
  | true => exact ⟨'-', _, rfl, .inl rfl⟩
  | false => exact ⟨d, _, by rw [digits]; rfl, .inr isDigit⟩

end Json
end EditorAnalysis
