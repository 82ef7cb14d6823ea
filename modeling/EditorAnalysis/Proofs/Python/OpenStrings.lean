import EditorAnalysis.Proofs.Python.RowStates

/-!
# Strings that stay open

What opens a string and what closes it, said of the characters of a text. A string that the
tokenizer holds open in front of a row opens at the place where it says, and none of the rows since
has a closer for it that no backslash takes away.
-/

namespace EditorAnalysis
namespace Python

open Text

/-! ## Closers -/

/-- The places of a row to which one comes from its front by passing over a backslash together with
the character behind it, and over any other character alone. -/
inductive LiveAt : List Char → Nat → Prop where
  | front {cs : List Char} : LiveAt cs 0
  | escape {c : Char} {cs : List Char} {n : Nat} :
      LiveAt cs n → LiveAt ('\\' :: c :: cs) (n + 2)
  | plain {c : Char} {cs : List Char} {n : Nat} :
      (c = '\\' → cs = []) → LiveAt cs n → LiveAt (c :: cs) (n + 1)

/-- The quotes that close a string. -/
def closer (quote : Char) (triple : Bool) : List Char :=
  List.replicate (if triple then 3 else 1) quote

/-- Whether the quotes that close a string stand in a row, at a place that no backslash takes
away. -/
def HoldsCloser (quote : Char) (triple : Bool) (cs : List Char) : Prop :=
  ∃ n, LiveAt cs n ∧ closer quote triple <+: cs.drop n

variable {quote : Char} {triple : Bool} {cs : List Char}

theorem exists_cons_of_closer_prefix (h : closer quote triple <+: cs) :
    ∃ rest, cs = quote :: rest ∧ (triple = true → rest.take 2 = [quote, quote]) := by
  cases triple with
  | false =>
      rcases h with ⟨rest, rfl⟩
      exact ⟨rest, rfl, fun isTriple => by cases isTriple⟩
  | true =>
      rcases h with ⟨rest, rfl⟩
      exact ⟨quote :: quote :: rest, rfl, fun _ => rfl⟩

/-- Where no closer is found there is none. -/
theorem StringEnd.not_holdsCloser {escaped : Bool} (notEscape : quote ≠ '\\')
    (h : StringEnd.find quote triple cs = .unclosed escaped) : ¬ HoldsCloser quote triple cs := by
  have unshifted {found : StringEnd} {k : Nat} {escaped : Bool}
      (h : found.shift k = .unclosed escaped) : found = .unclosed escaped := by
    cases found with
    | closed n => cases h
    | unclosed escaped => exact h
  rintro ⟨n, live, here⟩
  -- The search goes from one live place to the next.
  fun_induction StringEnd.find quote triple cs generalizing n escaped with
  | case1 =>
      rcases exists_cons_of_closer_prefix here with ⟨rest, none_, -⟩
      simp at none_
  | case2 =>
      rcases exists_cons_of_closer_prefix here with ⟨rest, at_, -⟩
      cases live with
      | front => exact notEscape (List.cons.inj at_).1.symm
      | plain _ _ => simp at at_
  | case3 c rest ih =>
      cases live with
      | front =>
          rcases exists_cons_of_closer_prefix here with ⟨_, at_, -⟩
          exact notEscape (List.cons.inj at_).1.symm
      | escape later => exact ih (unshifted h) _ later here
      | plain alone _ => exact absurd (alone rfl) (List.cons_ne_nil _ _)
  | case4 => cases h
  | case5 => cases h
  | case6 rest isTriple notThree _ _ ih =>
      cases live with
      | front =>
          rcases exists_cons_of_closer_prefix here with ⟨_, at_, three⟩
          cases at_
          exact notThree (three (by simpa using isTriple))
      | escape => exact notEscape rfl
      | plain _ later => exact ih (unshifted h) _ later here
  | case7 c rest _ notPair other ih =>
      cases live with
      | front =>
          rcases exists_cons_of_closer_prefix here with ⟨_, at_, -⟩
          exact other (List.cons.inj at_).1
      | escape => exact notPair _ _ rfl rfl
      | plain _ later => exact ih (unshifted h) _ later here

/-- Where a closer is found there is one. -/
theorem StringEnd.holdsCloser_of_closed {n : Nat}
    (h : StringEnd.find quote triple cs = .closed n) : HoldsCloser quote triple cs := by
  -- The search goes on over one character only where no other follows a backslash.
  have alone {c : Char} {rest : List Char} (notPair : ∀ d more, c = '\\' → rest = d :: more → False)
      (isBackslash : c = '\\') : rest = [] := by
    cases rest with
    | nil => rfl
    | cons d more => exact (notPair d more isBackslash rfl).elim
  fun_induction StringEnd.find quote triple cs generalizing n with
  | case1 => cases h
  | case2 => cases h
  | case3 c rest ih =>
      rcases exists_of_shift_eq_closed h with ⟨_, found, -⟩
      rcases ih found with ⟨place, live, here⟩
      exact ⟨place + 2, .escape live, here⟩
  | case4 rest once =>
      have isOnce : triple = false := by simpa using once
      exact ⟨0, .front, by simp [closer, isOnce]⟩
  | case5 rest thrice pair =>
      have isTriple : triple = true := by simpa using thrice
      refine ⟨0, .front, rest.drop 2, ?_⟩
      rw [List.drop_zero, ← List.take_append_drop 2 rest, pair]
      simp [closer, isTriple]
  | case6 rest _ _ _ notPair ih =>
      rcases exists_of_shift_eq_closed h with ⟨_, found, -⟩
      rcases ih found with ⟨place, live, here⟩
      exact ⟨place + 1, .plain (alone notPair) live, here⟩
  | case7 c rest _ notPair _ ih =>
      rcases exists_of_shift_eq_closed h with ⟨_, found, -⟩
      rcases ih found with ⟨place, live, here⟩
      exact ⟨place + 1, .plain (alone notPair) live, here⟩

/-- The search finds a closer just when there is one. -/
theorem StringEnd.exists_find_eq_closed_iff (notEscape : quote ≠ '\\') :
    (∃ n, StringEnd.find quote triple cs = .closed n) ↔ HoldsCloser quote triple cs := by
  constructor
  · rintro ⟨n, found⟩
    exact holdsCloser_of_closed found
  · intro holds
    cases found : StringEnd.find quote triple cs with
    | closed n => exact ⟨n, rfl⟩
    | unclosed escaped => exact absurd holds (not_holdsCloser notEscape found)

/-! ## Openers -/

/-- Whether a string opens at the front of a row's rest: perhaps with letters, then with its quote
once or three times. A quote that two others follow opens no string that is quoted once. -/
structure OpensString (quote : Char) (triple : Bool) (body rest : List Char) : Prop where
  isQuote : isQuote quote = true
  front : ∃ letters, letters.map Char.toLower ∈ stringPrefixes ∧
    rest = letters ++ closer quote triple ++ body
  once : triple = false → body.take 2 ≠ [quote, quote]

theorem StringOpener.prefix_mem_of_ofFront? {rest : List Char} {opener : StringOpener}
    (h : StringOpener.ofFront? rest = some opener) :
    (rest.takeWhile Char.isAlpha).map Char.toLower ∈ stringPrefixes := by
  simp only [StringOpener.ofFront?] at h
  split at h
  · next isPrefix => exact isPrefix
  · cases h

/-- The opener that the tokenizer finds opens a string, whose body is what it leaves. -/
theorem StringOpener.opensString {rest : List Char} {opener : StringOpener}
    (h : StringOpener.ofFront? rest = some opener) :
    OpensString opener.quote opener.triple (rest.drop opener.length) rest := by
  rcases exists_of_ofFront? h with ⟨more, behind, isq, letters, triple⟩
  have whole : rest = rest.takeWhile Char.isAlpha ++ opener.quote :: more := by
    rw [← behind, List.takeWhile_append_dropWhile]
  have body : rest.drop opener.length = more.drop (if opener.triple then 2 else 0) := by
    rw [StringOpener.length, ← List.drop_drop, letters, drop_length_takeWhile, behind]
    cases opener.triple <;> rfl
  rw [body]
  cases isTriple : opener.triple with
  | false =>
      rw [isTriple] at triple
      exact ⟨isq, ⟨_, prefix_mem_of_ofFront? h, by simpa [closer] using whole⟩,
        fun _ => by simpa using triple.symm⟩
  | true =>
      rw [isTriple] at triple
      have pair : more = [opener.quote, opener.quote] ++ more.drop 2 := by
        rw [← beq_iff_eq.1 triple.symm, List.take_append_drop]
      refine ⟨isq, ⟨_, prefix_mem_of_ofFront? h, ?_⟩, fun once => by cases once⟩
      rw [if_pos rfl, List.append_assoc]
      exact whole.trans (congrArg (fun l => rest.takeWhile Char.isAlpha ++ opener.quote :: l) pair)

theorem exists_closer_eq_cons (quote : Char) (triple : Bool) :
    ∃ quotes, closer quote triple = quote :: quotes := by
  cases triple with
  | false => exact ⟨[], rfl⟩
  | true => exact ⟨[quote, quote], rfl⟩

/-- No lower case of a character that may lie outside of all tokens stands in front of a quote. -/
theorem toLower_not_mem_of_gap {c : Char} (gap : c ∈ [' ', '\t', '\x0c', '\\'])
    (letters : List Char) : c.toLower :: letters ∉ stringPrefixes := by
  have heads : ∀ text ∈ stringPrefixes,
      text.head? ∉ [' ', '\t', '\x0c', '\\'].map fun d => some d.toLower := by decide
  intro mem
  exact heads _ mem (List.mem_map.2 ⟨c, gap, rfl⟩)

/-- A string begins with a character that has to be in a token. -/
theorem OpensString.exists_cons {quote : Char} {triple : Bool} {body rest : List Char}
    (h : OpensString quote triple body rest) :
    ∃ c more, rest = c :: more ∧ c ∉ [' ', '\t', '\x0c', '\\'] := by
  rcases h.front with ⟨letters, isPrefix, rfl⟩
  cases letters with
  | nil =>
      rcases exists_closer_eq_cons quote triple with ⟨quotes, isCloser⟩
      refine ⟨quote, quotes ++ body, by simp [isCloser], ?_⟩
      have isq := h.isQuote
      simp only [Python.isQuote, Bool.or_eq_true, beq_iff_eq] at isq
      rcases isq with rfl | rfl
      · decide
      · decide
  | cons c letters =>
      exact ⟨c, _, rfl, fun gap => toLower_not_mem_of_gap gap _ isPrefix⟩

/-! ## Strings that rows leave open -/

/-- Whether a string that opens at a place has no closer in front of a row: neither behind its
opener nor in one of the rows since. -/
structure StaysOpen (lines : List PhysicalLine) (start : Position) (quote : Char) (triple : Bool)
    (row : Nat) : Prop where
  opens : ∃ body, OpensString quote triple body ((rowText lines start.line).drop start.column) ∧
    ¬ HoldsCloser quote triple body
  since : ∀ place, start.line < place → place < row →
    ¬ HoldsCloser quote triple (rowText lines place)

theorem ne_backslash_of_isQuote (h : isQuote quote = true) : quote ≠ '\\' := by
  rintro rfl
  cases h

variable {lines : List PhysicalLine} {row : Nat} {line : PhysicalLine}

/-- One more row without a closer. -/
theorem StaysOpen.succ {start : Position} {escaped : Bool}
    (h : StaysOpen lines start quote triple row) (hline : lines[row]? = some line)
    (found : StringEnd.find quote triple line.content = .unclosed escaped) :
    StaysOpen lines start quote triple (row + 1) := by
  rcases h.opens with ⟨_, opens, -⟩
  refine ⟨h.opens, fun place behind before => ?_⟩
  rcases Nat.lt_or_eq_of_le (Nat.le_of_lt_succ before) with above | rfl
  · exact h.since place behind above
  · rw [rowText_of_getElem? hline]
    exact StringEnd.not_holdsCloser (ne_backslash_of_isQuote opens.isQuote) found

/-- A string that is open at the end of a row opens where its scan says. -/
theorem Scans.staysOpen {terminated : Bool} {column depth : Nat} {rest : List Char}
    {scan : RowScan} (h : Scans row terminated column depth rest scan)
    (isRest : rest = (rowText lines row).drop column) {s : OpenString}
    (ending : scan.ending = .inString s) :
    StaysOpen lines s.start s.quote s.triple (row + 1) := by
  induction h with
  | done | comment | continuation | brokenString => cases ending
  | blank _ _ ih => exact ih (front_of_drop isRest).2.1 ending
  | @lexeme column _ c cs _ n _ _ _ _ ih =>
      refine ih ?_ ending
      rw [isRest, List.drop_drop]
  | openString _ front found _ =>
      cases ending
      have opens := StringOpener.opensString (Lexeme.ofFront?_of_ofFront_eq_string front)
      have notClosed := StringEnd.not_holdsCloser (ne_backslash_of_isQuote opens.isQuote) found
      refine ⟨⟨_, isRest ▸ opens, notClosed⟩, fun place behind before => ?_⟩
      exact absurd before (Nat.not_lt_of_le behind)

/-- A row leaves a string open that opened in it, or one that was open before and does not close in
it. -/
theorem Steps.staysOpen {carry next : Carry} {tokens : List Token}
    (h : Steps row line carry tokens next) (hline : lines[row]? = some line)
    (before : ∀ s, carry.mode = .inString s → StaysOpen lines s.start s.quote s.triple row)
    {s : OpenString} (inString : next.mode = .inString s) :
    StaysOpen lines s.start s.quote s.triple (row + 1) := by
  have text := rowText_of_getElem? hline
  cases h with
  | blankRow | stringBreaks => cases inString
  | statement _ _ scanned =>
      refine scanned.staysOpen ?_ (mode_finishRow_eq_inString_iff.1 inString)
      rw [text, drop_length_takeWhile]
  | goesOn _ scanned =>
      exact scanned.staysOpen text.symm (mode_finishRow_eq_inString_iff.1 inString)
  | stringCloses _ scanned =>
      refine scanned.staysOpen ?_ (mode_finishRow_eq_inString_iff.1 inString)
      rw [text]
  | @stringGoesOn _ _ s' _ found _ =>
      cases inString
      exact (before s' rfl).succ hline found

/-- A string that is open in front of a row opens where it says, and has no closer since. -/
theorem Enters.staysOpen {carry : Carry} (h : Enters lines row carry)
    (inside : row ≤ lines.length) {s : OpenString} (inString : carry.mode = .inString s) :
    StaysOpen lines s.start s.quote s.triple row := by
  induction row generalizing carry s with
  | zero =>
      cases h.unique (Enters.zero lines)
      cases inString
  | succ row ih =>
      have hline : lines[row]? = some lines[row] := List.getElem?_eq_getElem inside
      rcases h.exists_steps hline with ⟨before, tokens, above, step, -⟩
      exact step.staysOpen hline (fun s => ih above (Nat.le_of_succ_le inside)) inString

end Python
end EditorAnalysis
