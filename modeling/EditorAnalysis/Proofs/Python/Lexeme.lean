import EditorAnalysis.Python.RowScan

/-!
# What a lexeme takes of its row

Every lexeme takes at least one character and no more than the row still has. A string that closes
in its row is a lexeme of that length too; one that does not makes no token where it begins.
-/

namespace EditorAnalysis
namespace Python

open Text

/-! ## Lengths -/

theorem runLength_le (p : Char → Bool) (cs : List Char) : runLength p cs ≤ cs.length :=
  (List.takeWhile_sublist p).length_le

theorem fractionLength_le (cs : List Char) : fractionLength cs ≤ cs.length := by
  cases cs with
  | nil => exact Nat.le_refl 0
  | cons c rest =>
      have digits := runLength_le isDigitPart rest
      simp only [fractionLength, List.length_cons]
      split <;> omega

theorem mantissaLength_le (cs : List Char) : mantissaLength cs ≤ cs.length := by
  cases cs with
  | nil => exact Nat.le_refl 0
  | cons c rest =>
      have digits := runLength_le isDigitPart rest
      simp only [mantissaLength]
      split
      · -- Digits in front: a fraction may follow them.
        have fraction := fractionLength_le ((c :: rest).drop (1 + runLength isDigitPart rest))
        rw [List.length_drop] at fraction
        simp only [List.length_cons] at *
        omega
      · split
        · cases rest with
          | nil => exact Nat.zero_le _
          | cons d more =>
              have after := runLength_le isDigitPart more
              simp only [List.length_cons]
              split <;> omega
        · exact Nat.zero_le _

theorem signLength_le (cs : List Char) : signLength cs ≤ cs.length := by
  cases cs with
  | nil => exact Nat.le_refl 0
  | cons c rest =>
      simp only [signLength, List.length_cons]
      split <;> omega

theorem exponentLength_le (cs : List Char) : exponentLength cs ≤ cs.length := by
  cases cs with
  | nil => exact Nat.le_refl 0
  | cons c rest =>
      simp only [exponentLength]
      split
      · have sign := signLength_le rest
        cases tail : rest.drop (signLength rest) with
        | nil => exact Nat.zero_le _
        | cons d more =>
            have digits := runLength_le isDigitPart more
            have length := congrArg List.length tail
            simp only [List.length_drop, List.length_cons] at length ⊢
            split <;> omega
      · exact Nat.zero_le _

theorem imaginaryLength_le (cs : List Char) : imaginaryLength cs ≤ cs.length := by
  cases cs with
  | nil => exact Nat.le_refl 0
  | cons c rest =>
      simp only [imaginaryLength, List.length_cons]
      split <;> omega

theorem decimalLength_le (cs : List Char) : decimalLength cs ≤ cs.length := by
  have mantissa := mantissaLength_le cs
  have exponent := exponentLength_le (cs.drop (mantissaLength cs))
  have imaginary := imaginaryLength_le
    (cs.drop (mantissaLength cs + exponentLength (cs.drop (mantissaLength cs))))
  rw [List.length_drop] at exponent imaginary
  simp only [decimalLength]
  split <;> omega

theorem numberLength_le (cs : List Char) : numberLength cs ≤ cs.length := by
  match cs with
  | [] => exact Nat.le_refl 0
  | [c] => exact decimalLength_le [c]
  | c :: d :: rest =>
      have digits := runLength_le isHexDigitPart rest
      simp only [numberLength]
      split
      · -- A number in another base: zero, a letter and digits.
        simp only [List.length_cons]
        omega
      · exact decimalLength_le (c :: d :: rest)

theorem nameLength_le (cs : List Char) : nameLength cs ≤ cs.length := by
  cases cs with
  | nil => exact Nat.le_refl 0
  | cons c rest =>
      have more := runLength_le isIdentifierContinue rest
      simp only [nameLength, List.length_cons]
      split <;> omega

theorem operatorLength_le (cs : List Char) : operatorLength cs ≤ cs.length := by
  rw [operatorLength]
  cases found : operators.find? (·.isPrefixOf cs) with
  | none => exact Nat.zero_le _
  | some op =>
      have front : op <+: cs :=
        List.isPrefixOf_iff_prefix.1
          (List.find?_some (p := fun op : List Char => op.isPrefixOf cs) found)
      exact front.length_le

/-! ## Strings -/

/-- Behind the entries of a class at the front stands what is left without them. -/
theorem drop_length_takeWhile {α : Type} (p : α → Bool) (l : List α) :
    l.drop (l.takeWhile p).length = l.dropWhile p := by
  have whole : l.takeWhile p ++ l.dropWhile p = l := List.takeWhile_append_dropWhile
  calc
    l.drop (l.takeWhile p).length
        = (l.takeWhile p ++ l.dropWhile p).drop (l.takeWhile p).length := by rw [whole]
    _ = l.dropWhile p := List.drop_left

/-- An opener is letters and then its quote, once or three times. -/
theorem StringOpener.exists_of_ofFront? {rest : List Char} {opener : StringOpener}
    (h : StringOpener.ofFront? rest = some opener) :
    ∃ more, rest.dropWhile Char.isAlpha = opener.quote :: more ∧
      isQuote opener.quote = true ∧
      opener.prefixLength = (rest.takeWhile Char.isAlpha).length ∧
      opener.triple = (more.take 2 == [opener.quote, opener.quote]) := by
  simp only [StringOpener.ofFront?, drop_length_takeWhile] at h
  split at h
  · cases tail : rest.dropWhile Char.isAlpha with
    | nil =>
        simp [tail] at h
    | cons quote more =>
        simp only [tail] at h
        split at h
        · next isq =>
            cases h
            exact ⟨more, rfl, isq, rfl, rfl⟩
        · cases h
  · cases h

theorem StringOpener.length_le {rest : List Char} {opener : StringOpener}
    (h : StringOpener.ofFront? rest = some opener) : opener.length ≤ rest.length := by
  rcases StringOpener.exists_of_ofFront? h with ⟨more, tail, -, letters, triple⟩
  have whole := congrArg List.length
    (List.takeWhile_append_dropWhile (p := Char.isAlpha) (l := rest))
  rw [List.length_append, tail, List.length_cons, ← letters] at whole
  rw [StringOpener.length]
  split
  · -- Three quotes: the two behind the first one are there.
    next isTriple =>
      rw [isTriple, eq_comm, beq_iff_eq] at triple
      have quotes := congrArg List.length triple
      simp only [List.length_take, List.length_cons, List.length_nil] at quotes
      omega
  · omega

theorem StringOpener.length_pos (opener : StringOpener) : 0 < opener.length := by
  rw [StringOpener.length]
  split <;> omega

theorem StringEnd.exists_of_shift_eq_closed {found : StringEnd} {k n : Nat}
    (h : found.shift k = .closed n) : ∃ m, found = .closed m ∧ n = k + m := by
  cases found with
  | closed m =>
      cases h
      exact ⟨m, rfl, rfl⟩
  | unclosed escaped => cases h

/-- A string does not close past its row. -/
theorem StringEnd.le_of_find_eq_closed {quote : Char} {triple : Bool} {body : List Char}
    {n : Nat} (h : StringEnd.find quote triple body = .closed n) : n ≤ body.length := by
  -- What was found behind the front of the body is shifted by what the front took.
  fun_induction StringEnd.find quote triple body generalizing n with
  | case1 => cases h
  | case2 => cases h
  | case3 _ rest ih =>
      rcases exists_of_shift_eq_closed h with ⟨m, found, rfl⟩
      have inside := ih found
      simp only [List.length_cons]
      omega
  | case4 rest =>
      cases h
      simp
  | case5 rest _ closer =>
      cases h
      have quotes := congrArg List.length closer
      simp only [List.length_take, List.length_cons, List.length_nil] at quotes ⊢
      omega
  | case6 rest _ _ _ _ ih | case7 _ rest _ _ _ ih =>
      rcases exists_of_shift_eq_closed h with ⟨m, found, rfl⟩
      have inside := ih found
      simp only [List.length_cons]
      omega

/-! ## The token of a lexeme -/

namespace Lexeme

/-- The kind and the length of the token that a lexeme at the front makes at once. A string that
does not close in its row makes none. -/
def token? (rest : List Char) : Lexeme → Option (TokenKind × Nat)
  | .string opener =>
    match StringEnd.find opener.quote opener.triple (rest.drop opener.length) with
    | .closed body => some (.string, opener.length + body)
    | .unclosed _ => none
  | .number n => some (.number, n)
  | .name n => some (.name, n)
  | .operator n => some (.operator, n)
  | .stray => some (.error, 1)

/-- A string is the lexeme at the front only where an opener is. -/
theorem ofFront?_of_ofFront_eq_string {rest : List Char} {opener : StringOpener}
    (h : ofFront rest = .string opener) : StringOpener.ofFront? rest = some opener := by
  rw [ofFront] at h
  split at h
  · next opens =>
      cases h
      exact opens
  · split at h
    · cases h
    · split at h
      · cases h
      · split at h <;> cases h

/-- The lexeme at the front takes at least one character, and none that is not there. -/
theorem length_of_token?_ofFront {c : Char} {cs : List Char} {kind : TokenKind} {n : Nat}
    (h : (ofFront (c :: cs)).token? (c :: cs) = some (kind, n)) :
    0 < n ∧ n ≤ (c :: cs).length := by
  rw [ofFront] at h
  split at h
  · next opener opens =>
      -- A string takes its opener and what it took to close it.
      have inside := StringOpener.length_le opens
      have quoted := opener.length_pos
      rw [token?] at h
      split at h
      · next body found =>
          cases h
          have closes := StringEnd.le_of_find_eq_closed found
          rw [List.length_drop] at closes
          omega
      · cases h
  · split at h
    · next number =>
        cases h
        exact ⟨Nat.pos_of_ne_zero number, numberLength_le _⟩
    · split at h
      · next name =>
          cases h
          exact ⟨Nat.pos_of_ne_zero name, nameLength_le _⟩
      · split at h
        · next operator =>
            cases h
            exact ⟨Nat.pos_of_ne_zero operator, operatorLength_le _⟩
        · cases h
          simp

/-- A lexeme makes a string, a number, a name, an operator or an error. -/
theorem kind_of_token? {lexeme : Lexeme} {rest : List Char} {kind : TokenKind} {n : Nat}
    (h : lexeme.token? rest = some (kind, n)) :
    kind ∈ [TokenKind.string, .number, .name, .operator, .error] := by
  cases lexeme with
  | string opener =>
      rw [token?] at h
      split at h <;> cases h
      simp
  | number m | name m | operator m | stray =>
      cases h
      simp

end Lexeme
end Python
end EditorAnalysis
