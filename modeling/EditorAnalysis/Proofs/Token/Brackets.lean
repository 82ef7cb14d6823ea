import EditorAnalysis.Proofs.Classifier.Ranks

/-!
# Brackets in a stream of tokens

The tokens of brackets are counted along the stream. A stream is bracketed when logical lines end,
and blocks open and close, outside of all brackets only.
-/

namespace EditorAnalysis

namespace Token

/-- The number of brackets open behind a token. A closing bracket that nothing opened counts for
nothing. -/
def bracketsAfter (depth : Nat) (t : Token) : Nat :=
  if t.kind = .operator then
    if t.text ∈ ["(", "[", "\x7b"] then depth + 1
    else if t.text ∈ [")", "]", "\x7d"] then depth - 1
    else depth
  else depth

/-- Whether a token may not stand between brackets: it ends a logical line, or it opens or closes a
block. -/
def isStructural (t : Token) : Bool :=
  t.kind == .newline || t.isBlockToken

/-- Whether a token may be a bracket. -/
def isOperator (t : Token) : Bool :=
  t.kind == .operator

theorem bracketsAfter_of_not_isOperator {t : Token} (h : t.isOperator = false) (depth : Nat) :
    t.bracketsAfter depth = depth :=
  if_neg (beq_eq_false_iff_ne.1 h)

end Token

/-- The number of brackets open behind a list of tokens. -/
def openBrackets (depth : Nat) (tokens : List Token) : Nat :=
  tokens.foldl Token.bracketsAfter depth

theorem openBrackets_append (depth : Nat) (front back : List Token) :
    openBrackets depth (front ++ back) = openBrackets (openBrackets depth front) back :=
  List.foldl_append

/-- The number of brackets open at the end of a row. -/
def rowBrackets (tokens : List Token) (row : Nat) : Nat :=
  openBrackets 0 (tokens.filter fun t => t.stop.line ≤ row)

/-- Tokens in front of which so many brackets are open, and behind which so many are. -/
inductive Bracketed : Nat → List Token → Nat → Prop where
  | done {depth : Nat} : Bracketed depth [] depth
  | token {depth last : Nat} {t : Token} {tokens : List Token} :
      (t.isStructural = true → depth = 0) → Bracketed (t.bracketsAfter depth) tokens last →
      Bracketed depth (t :: tokens) last

namespace Bracketed

variable {depth middle last : Nat} {tokens front back : List Token} {t : Token}

theorem trans (first : Bracketed depth front middle) (second : Bracketed middle back last) :
    Bracketed depth (front ++ back) last := by
  induction first with
  | done => exact second
  | token outside _ ih => exact token outside (ih second)

/-- A token that is no bracket and may stand anywhere. -/
theorem plain (notOperator : t.isOperator = false) (notStructural : t.isStructural = false)
    (rest : Bracketed depth tokens last) : Bracketed depth (t :: tokens) last := by
  refine token ?_ ?_
  · intro structural
    rw [notStructural] at structural
    cases structural
  · rwa [Token.bracketsAfter_of_not_isOperator notOperator]

/-- Outside of all brackets any token that is no bracket may stand. -/
theorem outside (noOperator : ∀ t ∈ tokens, t.isOperator = false) : Bracketed 0 tokens 0 := by
  induction tokens with
  | nil => exact done
  | cons t rest ih =>
      refine token (fun _ => rfl) ?_
      rw [Token.bracketsAfter_of_not_isOperator (noOperator t List.mem_cons_self)]
      exact ih fun u hu => noOperator u (List.mem_cons_of_mem t hu)

theorem openBrackets_eq (h : Bracketed depth tokens last) : openBrackets depth tokens = last := by
  induction h with
  | done => rfl
  | token _ _ ih => exact ih

/-- In front of a token that may not stand between brackets, none is open. -/
theorem openBrackets_eq_zero (h : Bracketed depth (front ++ t :: back) last)
    (structural : t.isStructural = true) : openBrackets depth front = 0 := by
  induction front generalizing depth with
  | nil =>
      cases h with
      | token outside _ => exact outside structural
  | cons u rest ih =>
      cases h with
      | token _ later => exact ih later

end Bracketed
end EditorAnalysis
