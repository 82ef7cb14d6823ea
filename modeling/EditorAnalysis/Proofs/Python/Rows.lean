import EditorAnalysis.Proofs.Python.Blocks
import EditorAnalysis.Python.Tokenizer

/-!
# Rows one after the other

Scanning rows and then more rows is scanning all of them, and the end of a text takes one of three
forms: a row failed, the text breaks off inside something, or all that is open is closed.
-/

namespace EditorAnalysis
namespace Python

open Text

/-! ## More rows -/

section

variable {row : Nat} {carry next : Carry} {tokens : List Token} {front : List PhysicalLine}

theorem scanRows_cons_of_ok {line : PhysicalLine} (h : scanRow row line carry = .ok (tokens, next))
    (rest : List PhysicalLine) :
    scanRows row carry (line :: rest) =
      (tokens ++ (scanRows (row + 1) next rest).1, (scanRows (row + 1) next rest).2) := by
  simp [scanRows, h]

theorem scanRows_cons_of_error {line : PhysicalLine} {failure : TokenizeFailure}
    (h : scanRow row line carry = .error failure) (rest : List PhysicalLine) :
    scanRows row carry (line :: rest) = ([], .error failure) := by
  simp [scanRows, h]

/-- Rows that are scanned to their end are a first row that is scanned and the others behind it. -/
theorem exists_of_scanRows_cons {line : PhysicalLine} {rest : List PhysicalLine}
    (h : scanRows row carry (line :: rest) = (tokens, .ok next)) :
    ∃ first middle more, Steps row line carry first middle ∧
      scanRows (row + 1) middle rest = (more, .ok next) ∧ tokens = first ++ more := by
  cases scanned : scanRow row line carry with
  | error failure =>
      rw [scanRows_cons_of_error scanned] at h
      cases h
  | ok result =>
      rcases result with ⟨first, middle⟩
      rw [scanRows_cons_of_ok scanned] at h
      rcases Prod.mk.inj h with ⟨rfl, outcome⟩
      exact ⟨first, middle, _, Steps.of_scanRow scanned, Prod.ext rfl outcome, rfl⟩

/-- Behind rows that are scanned to their end, others are scanned with what these leave. -/
theorem scanRows_append_of_ok (h : scanRows row carry front = (tokens, .ok next))
    (back : List PhysicalLine) :
    scanRows row carry (front ++ back) =
      (tokens ++ (scanRows (row + front.length) next back).1,
        (scanRows (row + front.length) next back).2) := by
  -- The induction is on the rows in front; the state behind a row is that in front of the next.
  induction front generalizing row carry tokens with
  | nil =>
      cases h
      rfl
  | cons line rest ih =>
      rcases exists_of_scanRows_cons h with ⟨first, middle, more, step, later, rfl⟩
      have place : row + (rest.length + 1) = row + 1 + rest.length :=
        Nat.add_right_comm row rest.length 1
      rw [List.cons_append, scanRows_cons_of_ok step.scanRow_eq, ih later, List.length_cons, place,
        List.append_assoc]

/-- A row that fails hides all rows behind it. -/
theorem scanRows_append_of_error {failure : TokenizeFailure}
    (h : scanRows row carry front = (tokens, .error failure)) (back : List PhysicalLine) :
    scanRows row carry (front ++ back) = (tokens, .error failure) := by
  induction front generalizing row carry tokens with
  | nil => cases h
  | cons line rest ih =>
      cases scanned : scanRow row line carry with
      | error other =>
          rw [scanRows_cons_of_error scanned] at h
          rw [List.cons_append, scanRows_cons_of_error scanned, h]
      | ok result =>
          rcases result with ⟨first, middle⟩
          rw [scanRows_cons_of_ok scanned] at h
          rcases Prod.mk.inj h with ⟨rfl, outcome⟩
          have split : scanRows (row + 1) middle rest = (_, .error failure) :=
            Prod.ext rfl outcome
          rw [List.cons_append, scanRows_cons_of_ok scanned, ih split]

/-- One more row. -/
theorem scanRows_concat_of_ok (h : scanRows row carry front = (tokens, .ok next))
    {line : PhysicalLine} {more : List Token} {last : Carry}
    (step : Steps (row + front.length) line next more last) :
    scanRows row carry (front ++ [line]) = (tokens ++ more, .ok last) := by
  rw [scanRows_append_of_ok h, scanRows_cons_of_ok step.scanRow_eq, scanRows, List.append_nil]

theorem scanRows_concat_of_error (h : scanRows row carry front = (tokens, .ok next))
    {line : PhysicalLine} {failure : TokenizeFailure}
    (fails : scanRow (row + front.length) line next = .error failure) :
    scanRows row carry (front ++ [line]) = (tokens, .error failure) := by
  rw [scanRows_append_of_ok h, scanRows_cons_of_error fails, List.append_nil]

/-- Rows that are scanned to their end are so up to the last one, and then it is scanned. -/
theorem exists_of_scanRows_concat {line : PhysicalLine} {last : Carry}
    (h : scanRows row carry (front ++ [line]) = (tokens, .ok last)) :
    ∃ first middle more, scanRows row carry front = (first, .ok middle) ∧
      Steps (row + front.length) line middle more last ∧ tokens = first ++ more := by
  cases split : scanRows row carry front with
  | mk first outcome =>
      cases outcome with
      | error failure =>
          rw [scanRows_append_of_error split] at h
          cases h
      | ok middle =>
          cases scanned : scanRow (row + front.length) line middle with
          | error failure =>
              rw [scanRows_concat_of_error split scanned] at h
              cases h
          | ok result =>
              rcases result with ⟨more, next⟩
              have steps := Steps.of_scanRow scanned
              rw [scanRows_concat_of_ok split steps] at h
              cases h
              exact ⟨first, middle, more, rfl, steps, rfl⟩

/-! ## What rows keep -/

/-- What every row keeps, rows keep. -/
theorem scanRows_preserves {motive : Carry → Prop}
    (step : ∀ row line carry tokens next,
      Steps row line carry tokens next → motive carry → motive next)
    {lines : List PhysicalLine} (h : scanRows row carry lines = (tokens, .ok next))
    (start : motive carry) : motive next := by
  induction lines generalizing row carry tokens with
  | nil =>
      cases h
      exact start
  | cons line rest ih =>
      rcases exists_of_scanRows_cons h with ⟨first, middle, more, scanned, later, -⟩
      exact ih later (step _ _ _ _ _ scanned start)

/-- The blocks that rows leave open lie one inside the other. -/
theorem nested_of_scanRows {lines : List PhysicalLine}
    (h : scanRows row carry lines = (tokens, .ok next)) (nested : carry.blocks.Nested) :
    next.blocks.Nested :=
  scanRows_preserves (motive := fun carry => carry.blocks.Nested)
    (fun _ _ _ _ _ step => step.nested) h nested

/-- What the tokens of every row lead from and to, the tokens of rows do. -/
theorem exists_scanRows_leads {α : Type} {Leads : α → List Token → α → Prop} (state : Carry → α)
    (done : ∀ a, Leads a [] a)
    (trans : ∀ a b c front back, Leads a front b → Leads b back c → Leads a (front ++ back) c)
    (step : ∀ row line carry tokens next,
      Steps row line carry tokens next → Leads (state carry) tokens (state next))
    (row : Nat) (carry : Carry) (lines : List PhysicalLine) :
    ∃ last, Leads (state carry) (scanRows row carry lines).1 last ∧
      ∀ next, (scanRows row carry lines).2 = .ok next → last = state next := by
  induction lines generalizing row carry with
  | nil =>
      refine ⟨state carry, done _, ?_⟩
      intro next outcome
      cases outcome
      rfl
  | cons line rest ih =>
      cases scanned : scanRow row line carry with
      | error failure =>
          rw [scanRows_cons_of_error scanned]
          refine ⟨state carry, done _, ?_⟩
          intro next outcome
          cases outcome
      | ok result =>
          rcases result with ⟨first, middle⟩
          rcases ih (row + 1) middle with ⟨last, later, upTo⟩
          rw [scanRows_cons_of_ok scanned]
          exact ⟨last, trans _ _ _ _ _ (step _ _ _ _ _ (Steps.of_scanRow scanned)) later, upTo⟩

/-- A token of rows is a token of one of them. -/
theorem exists_steps_of_mem_scanRows {lines : List PhysicalLine} {t : Token}
    (ht : t ∈ (scanRows row carry lines).1) :
    ∃ place line before here after, row ≤ place ∧ place < row + lines.length ∧
      Steps place line before here after ∧ t ∈ here := by
  induction lines generalizing row carry with
  | nil => cases ht
  | cons line rest ih =>
      cases scanned : scanRow row line carry with
      | error failure =>
          rw [scanRows_cons_of_error scanned] at ht
          cases ht
      | ok result =>
          rcases result with ⟨first, middle⟩
          rw [scanRows_cons_of_ok scanned] at ht
          have more : row < row + (line :: rest).length :=
            Nat.lt_add_of_pos_right (Nat.succ_pos rest.length)
          rcases List.mem_append.1 ht with inFirst | later
          · exact ⟨row, line, carry, first, middle, Nat.le_refl row, more,
              Steps.of_scanRow scanned, inFirst⟩
          · rcases ih later with ⟨place, other, before, here, after, low, high, step, inHere⟩
            rw [Nat.add_right_comm] at high
            exact ⟨place, other, before, here, after, Nat.le_of_succ_le low, high, step, inHere⟩

/-- The tokens of rows stop in these rows. -/
theorem stop_line_of_mem_scanRows {lines : List PhysicalLine} {t : Token}
    (ht : t ∈ (scanRows row carry lines).1) :
    row ≤ t.stop.line ∧ t.stop.line < row + lines.length := by
  rcases exists_steps_of_mem_scanRows ht with ⟨place, _, _, _, _, low, high, step, inHere⟩
  rw [step.stop_line t inHere]
  exact ⟨low, high⟩

end

/-! ## The end of a text -/

theorem eq_or_eq_of_mem_closingTokens {rows : Nat} {blocks : OpenBlocks} {t : Token}
    (ht : t ∈ closingTokens rows blocks) :
    t = ⟨.dedent, "", ⟨rows, 0⟩, ⟨rows, 0⟩⟩ ∨ t = ⟨.endMarker, "", ⟨rows, 0⟩, ⟨rows, 0⟩⟩ := by
  rcases List.mem_append.1 ht with dedent | marker
  · exact Or.inl (List.mem_replicate.1 dedent).2
  · exact Or.inr (List.mem_singleton.1 marker)

/-- A text may end where nothing but blocks is open. -/
theorem Carry.failure?_eq_none_iff {carry : Carry} {rows : Nat} :
    carry.failure? rows = none ↔ carry.mode = .fresh ∧ carry.depth = 0 := by
  rcases carry with ⟨blocks, depth, mode⟩
  cases mode with
  | inString s => simp [Carry.failure?]
  | continued => simp [Carry.failure?]
  | fresh => simp [Carry.failure?]

/-- Where a text ends no row goes astray. -/
theorem Carry.failure?_ne_inconsistentDedent {carry : Carry} {rows : Nat} (place : Position) :
    carry.failure? rows ≠ some (.inconsistentDedent place) := by
  rcases carry with ⟨blocks, depth, mode⟩
  cases mode <;> simp [failure?]

section

variable {lines : List PhysicalLine} {tokens : List Token} {carry : Carry}

theorem tokenizeLines_of_error {failure : TokenizeFailure}
    (h : scanRows 0 .initial lines = (tokens, .error failure)) :
    tokenizeLines lines = ⟨tokens, some failure⟩ := by
  simp [tokenizeLines, h]

theorem tokenizeLines_of_failure {failure : TokenizeFailure}
    (h : scanRows 0 .initial lines = (tokens, .ok carry))
    (ends : carry.failure? lines.length = some failure) :
    tokenizeLines lines = ⟨tokens, some failure⟩ := by
  simp [tokenizeLines, h, ends]

theorem tokenizeLines_of_complete {blocks : OpenBlocks}
    (h : scanRows 0 .initial lines = (tokens, .ok ⟨blocks, 0, .fresh⟩)) :
    tokenizeLines lines = ⟨tokens ++ closingTokens lines.length blocks, none⟩ := by
  have ends : Carry.failure? ⟨blocks, 0, .fresh⟩ lines.length = none := rfl
  simp [tokenizeLines, h, ends]

/-- No row goes astray in a text whose rows are scanned to their end. -/
theorem failure_ne_inconsistentDedent (h : scanRows 0 .initial lines = (tokens, .ok carry))
    (place : Position) : (tokenizeLines lines).failure ≠ some (.inconsistentDedent place) := by
  cases ends : carry.failure? lines.length with
  | none =>
      simp [tokenizeLines, h, ends]
  | some failure =>
      rw [tokenizeLines_of_failure h ends, ← ends]
      exact Carry.failure?_ne_inconsistentDedent place

/-- A stream is complete when no row failed and the text does not break off. -/
theorem isComplete_tokenizeLines_iff :
    (tokenizeLines lines).isComplete = true ↔
      ∃ tokens blocks, scanRows 0 .initial lines = (tokens, .ok ⟨blocks, 0, .fresh⟩) := by
  constructor
  · -- There are three ways to the end, and the first two leave a failure.
    intro complete
    cases scanned : scanRows 0 .initial lines with
    | mk tokens outcome =>
        cases outcome with
        | error failure =>
            rw [tokenizeLines_of_error scanned] at complete
            cases complete
        | ok carry =>
            cases ends : carry.failure? lines.length with
            | some failure =>
                rw [tokenizeLines_of_failure scanned ends] at complete
                cases complete
            | none =>
                rcases carry with ⟨blocks, depth, mode⟩
                rcases Carry.failure?_eq_none_iff.1 ends with ⟨rfl, rfl⟩
                exact ⟨tokens, blocks, rfl⟩
  · rintro ⟨tokens, blocks, scanned⟩
    rw [tokenizeLines_of_complete scanned]
    rfl

/-- A stream that is not complete holds the tokens of the rows and no others. -/
theorem tokens_tokenizeLines_of_not_isComplete
    (h : (tokenizeLines lines).isComplete = false) :
    (tokenizeLines lines).tokens = (scanRows 0 .initial lines).1 := by
  cases scanned : scanRows 0 .initial lines with
  | mk tokens outcome =>
      cases outcome with
      | error failure => rw [tokenizeLines_of_error scanned]
      | ok carry =>
          cases ends : carry.failure? lines.length with
          | some failure => rw [tokenizeLines_of_failure scanned ends]
          | none =>
              rcases carry with ⟨blocks, depth, mode⟩
              rcases Carry.failure?_eq_none_iff.1 ends with ⟨rfl, rfl⟩
              rw [tokenizeLines_of_complete scanned] at h
              cases h

end

end Python
end EditorAnalysis
