import EditorAnalysis.Proofs.Json.Numeral
import EditorAnalysis.Proofs.Json.Text

/-!
# Written values

The lexemes of a value, and the texts that spell it: those with just these lexemes, whatever white
space stands between them and however characters are escaped. Both ways of writing a value spell
it.
-/

namespace EditorAnalysis
namespace Json

variable {cs rest : List Char}

/-! ## Lexemes -/

mutual

/-- The lexemes of a value. -/
def Value.lexemes : Value → List Lexeme
  | .null => [.null]
  | .bool b => [.bool b]
  | .number n => [.number n]
  | .text s => [.text (some s)]
  | .array elements => .openBracket :: elementLexemes elements ++ [.closeBracket]
  | .object members => .openBrace :: memberLexemes members ++ [.closeBrace]

def elementLexemes : List Value → List Lexeme
  | [] => []
  | [v] => v.lexemes
  | v :: w :: rest => v.lexemes ++ .comma :: elementLexemes (w :: rest)

def memberLexemes : List (String × Value) → List Lexeme
  | [] => []
  | [(key, v)] => .text (some key) :: .colon :: v.lexemes
  | (key, v) :: next :: rest =>
    .text (some key) :: .colon :: v.lexemes ++ .comma :: memberLexemes (next :: rest)

end

/-- Whether a text spells a value: it has the lexemes of the value. -/
def Spells (text : String) (v : Value) : Prop :=
  lexemes text.toList = v.lexemes

/-! ## Lexemes at the front of a text -/

theorem lexemes_nil : lexemes [] = [] := by rw [lexemes]

theorem lexemes_cons_of_space {c : Char} (space : isSpace c = true) :
    lexemes (c :: cs) = lexemes cs := by
  rw [lexemes, if_pos space]

theorem lexemes_cons_of_front {c : Char} {lexeme : Lexeme} (notSpace : isSpace c = false)
    (front : frontLexeme c cs = (lexeme, some rest)) :
    lexemes (c :: cs) = lexeme :: lexemes rest := by
  rw [lexemes, if_neg (by simp [notSpace])]
  split
  case h_1 none_ => simp [front] at none_
  case h_2 some_ =>
    rw [front] at some_
    cases some_
    rfl

theorem lexemes_comma (cs : List Char) : lexemes (',' :: cs) = .comma :: lexemes cs :=
  lexemes_cons_of_front rfl rfl

theorem lexemes_colon (cs : List Char) : lexemes (':' :: cs) = .colon :: lexemes cs :=
  lexemes_cons_of_front rfl rfl

theorem lexemes_openBracket (cs : List Char) : lexemes ('[' :: cs) = .openBracket :: lexemes cs :=
  lexemes_cons_of_front rfl rfl

theorem lexemes_closeBracket (cs : List Char) :
    lexemes (']' :: cs) = .closeBracket :: lexemes cs :=
  lexemes_cons_of_front rfl rfl

theorem lexemes_openBrace (cs : List Char) : lexemes ('\x7b' :: cs) = .openBrace :: lexemes cs :=
  lexemes_cons_of_front rfl rfl

theorem lexemes_closeBrace (cs : List Char) : lexemes ('\x7d' :: cs) = .closeBrace :: lexemes cs :=
  lexemes_cons_of_front rfl rfl

theorem lexemes_null (cs : List Char) :
    lexemes ('n' :: 'u' :: 'l' :: 'l' :: cs) = .null :: lexemes cs :=
  lexemes_cons_of_front rfl rfl

theorem lexemes_true (cs : List Char) :
    lexemes ('t' :: 'r' :: 'u' :: 'e' :: cs) = .bool true :: lexemes cs :=
  lexemes_cons_of_front rfl rfl

theorem lexemes_false (cs : List Char) :
    lexemes ('f' :: 'a' :: 'l' :: 's' :: 'e' :: cs) = .bool false :: lexemes cs :=
  lexemes_cons_of_front rfl rfl

theorem lexemes_renderText (s : String) (cs : List Char) :
    lexemes (renderText s ++ cs) = .text (some s) :: lexemes cs := by
  rw [renderText, List.append_assoc, List.cons_append]
  exact lexemes_cons_of_front rfl (textLexeme_renderText s cs)

theorem frontLexeme_of_numeral {c : Char} (front : c = '-' ∨ c.isDigit = true) (cs : List Char) :
    frontLexeme c cs = numberLexeme (c :: cs) ∧ isSpace c = false := by
  rcases front with rfl | isDigit
  · exact ⟨rfl, rfl⟩
  · have other {d : Char} (notDigit : d.isDigit = false) : c ≠ d := by
      rintro rfl
      rw [isDigit] at notDigit
      cases notDigit
    constructor
    · rw [frontLexeme, if_neg (other rfl), if_neg (other rfl), if_neg (other rfl),
        if_neg (other rfl), if_neg (other rfl), if_neg (other rfl), if_neg (other rfl),
        if_neg (other rfl), if_neg (other rfl), if_neg (other rfl), if_pos (.inr isDigit)]
    · simp only [isSpace, Bool.or_eq_false_iff, beq_eq_false_iff_ne]
      exact ⟨⟨⟨other rfl, other rfl⟩, other rfl⟩, other rfl⟩

theorem lexemes_numeral (n : Numeral) (stops : StopsNumeral cs) :
    lexemes (n.render ++ cs) = .number n :: lexemes cs := by
  rcases exists_render_eq_cons n with ⟨c, more, render, front⟩
  rcases frontLexeme_of_numeral front (more ++ cs) with ⟨isNumber, notSpace⟩
  have scanned := scanNumeral_render n stops
  rw [render, List.cons_append] at scanned ⊢
  refine lexemes_cons_of_front notSpace ?_
  rw [isNumber, numberLexeme, scanned]

/-! ## Both ways of writing -/

theorem stopsNumeral_cons {c : Char}
    (other : c.isDigit = false ∧ c ≠ '.' ∧ c ≠ 'e' ∧ c ≠ 'E') : StopsNumeral (c :: cs) := by
  intro d front
  rwa [← Option.some.inj front]

theorem lexemes_lineBreak (depth : Nat) (cs : List Char) :
    lexemes (Value.lineBreak depth ++ cs) = lexemes cs := by
  rw [Value.lineBreak, List.cons_append, lexemes_cons_of_space rfl]
  induction 2 * depth with
  | zero => rfl
  | succ n ih =>
      rw [List.replicate_succ, List.cons_append, lexemes_cons_of_space rfl]
      exact ih

theorem stopsNumeral_lineBreak (depth : Nat) (cs : List Char) :
    StopsNumeral (Value.lineBreak depth ++ cs) :=
  stopsNumeral_cons (by decide)

mutual

/-- A written value is found as the front of the text that it is written into. -/
theorem lexemes_render (v : Value) (cs : List Char) (stops : StopsNumeral cs) :
    lexemes (v.render ++ cs) = v.lexemes ++ lexemes cs := by
  match v with
  | .null => exact lexemes_null cs
  | .bool true => exact lexemes_true cs
  | .bool false => exact lexemes_false cs
  | .number n => exact lexemes_numeral n stops
  | .text s => exact lexemes_renderText s cs
  | .array elements =>
      rw [Value.render, Value.lexemes, List.append_assoc, List.cons_append, lexemes_openBracket,
        List.singleton_append, lexemes_renderElements elements _ (stopsNumeral_cons (by decide)),
        lexemes_closeBracket]
      simp
  | .object members =>
      rw [Value.render, Value.lexemes, List.append_assoc, List.cons_append, lexemes_openBrace,
        List.singleton_append, lexemes_renderMembers members _ (stopsNumeral_cons (by decide)),
        lexemes_closeBrace]
      simp

theorem lexemes_renderElements (elements : List Value) (cs : List Char) (stops : StopsNumeral cs) :
    lexemes (Value.renderElements elements ++ cs) = elementLexemes elements ++ lexemes cs := by
  match elements with
  | [] => rfl
  | [v] => exact lexemes_render v cs stops
  | v :: w :: rest =>
      rw [Value.renderElements, elementLexemes, List.append_assoc, List.cons_append,
        lexemes_render v _ (stopsNumeral_cons (by decide)), lexemes_comma,
        lexemes_renderElements (w :: rest) cs stops]
      simp

theorem lexemes_renderMembers (members : List (String × Value)) (cs : List Char)
    (stops : StopsNumeral cs) :
    lexemes (Value.renderMembers members ++ cs) = memberLexemes members ++ lexemes cs := by
  match members with
  | [] => rfl
  | [(key, v)] =>
      rw [Value.renderMembers, memberLexemes, List.append_assoc, List.cons_append,
        lexemes_renderText, lexemes_colon, lexemes_render v cs stops]
      rfl
  | (key, v) :: next :: rest =>
      rw [Value.renderMembers, memberLexemes]
      simp only [List.append_assoc, List.cons_append]
      rw [lexemes_renderText, lexemes_colon, lexemes_render v _ (stopsNumeral_cons (by decide)),
        lexemes_comma, lexemes_renderMembers (next :: rest) cs stops]

end

mutual

theorem lexemes_renderPretty (depth : Nat) (v : Value) (cs : List Char) (stops : StopsNumeral cs) :
    lexemes (v.renderPretty depth ++ cs) = v.lexemes ++ lexemes cs := by
  match v with
  | .null => exact lexemes_null cs
  | .bool true => exact lexemes_true cs
  | .bool false => exact lexemes_false cs
  | .number n => exact lexemes_numeral n stops
  | .text s => exact lexemes_renderText s cs
  | .array [] =>
      rw [Value.renderPretty, List.cons_append, lexemes_openBracket, List.singleton_append,
        lexemes_closeBracket]
      rfl
  | .array (v :: rest) =>
      rw [Value.renderPretty, Value.lexemes]
      simp only [List.append_assoc, List.cons_append, List.nil_append]
      rw [lexemes_openBracket, lexemes_renderPrettyElements (depth + 1) (v :: rest) _
        (stopsNumeral_lineBreak depth _), lexemes_lineBreak, lexemes_closeBracket]
  | .object [] =>
      rw [Value.renderPretty, List.cons_append, lexemes_openBrace, List.singleton_append,
        lexemes_closeBrace]
      rfl
  | .object (m :: rest) =>
      rw [Value.renderPretty, Value.lexemes]
      simp only [List.append_assoc, List.cons_append, List.nil_append]
      rw [lexemes_openBrace, lexemes_renderPrettyMembers (depth + 1) (m :: rest) _
        (stopsNumeral_lineBreak depth _), lexemes_lineBreak, lexemes_closeBrace]

theorem lexemes_renderPrettyElements (depth : Nat) (elements : List Value) (cs : List Char)
    (stops : StopsNumeral cs) :
    lexemes (Value.renderPrettyElements depth elements ++ cs) =
      elementLexemes elements ++ lexemes cs := by
  match elements with
  | [] => rfl
  | [v] =>
      rw [Value.renderPrettyElements, elementLexemes, List.append_assoc, lexemes_lineBreak,
        lexemes_renderPretty depth v cs stops]
  | v :: w :: rest =>
      rw [Value.renderPrettyElements, elementLexemes]
      simp only [List.append_assoc, List.cons_append]
      rw [lexemes_lineBreak, lexemes_renderPretty depth v _ (stopsNumeral_cons (by decide)),
        lexemes_comma, lexemes_renderPrettyElements depth (w :: rest) cs stops]

theorem lexemes_renderPrettyMembers (depth : Nat) (members : List (String × Value))
    (cs : List Char) (stops : StopsNumeral cs) :
    lexemes (Value.renderPrettyMembers depth members ++ cs) =
      memberLexemes members ++ lexemes cs := by
  match members with
  | [] => rfl
  | [(key, v)] =>
      rw [Value.renderPrettyMembers, memberLexemes]
      simp only [List.append_assoc, List.cons_append]
      rw [lexemes_lineBreak, lexemes_renderText, lexemes_colon,
        lexemes_cons_of_space (by decide), lexemes_renderPretty depth v cs stops]
  | (key, v) :: next :: rest =>
      rw [Value.renderPrettyMembers, memberLexemes]
      simp only [List.append_assoc, List.cons_append]
      rw [lexemes_lineBreak, lexemes_renderText, lexemes_colon,
        lexemes_cons_of_space (by decide),
        lexemes_renderPretty depth v _ (stopsNumeral_cons (by decide)), lexemes_comma,
        lexemes_renderPrettyMembers depth (next :: rest) cs stops]

end

theorem spells_compact (v : Value) : Spells v.compact v := by
  have written := lexemes_render v [] stopsNumeral_nil
  rwa [List.append_nil, lexemes_nil, List.append_nil, ← String.toList_ofList (l := v.render)]
    at written

theorem spells_pretty (v : Value) : Spells v.pretty v := by
  have written := lexemes_renderPretty 0 v [] stopsNumeral_nil
  rwa [List.append_nil, lexemes_nil, List.append_nil,
    ← String.toList_ofList (l := v.renderPretty 0)] at written

end Json
end EditorAnalysis
