import EditorAnalysis.Json.Reader
import EditorAnalysis.Proofs.Json.Value

/-!
# Reading what was written

A reader that is given the lexemes of a value and more takes the value off and leaves the rest. A
value of any kind can be skipped so, whatever it holds and however deep it goes.
-/

namespace EditorAnalysis
namespace Json

variable {α : Type}

/-- Whether a reader takes a value off the front of any lexemes, and what it makes of it. -/
def Reads (read : Reader α) (v : Value) (a : α) : Prop :=
  ∀ rest, read (v.lexemes ++ rest) = .ok (a, rest)

/-! ## The shape of values -/

/-- A value begins with none of the marks that end or join values. -/
theorem exists_lexemes_eq_cons (v : Value) :
    ∃ l ls, v.lexemes = l :: ls ∧ l ≠ .closeBracket ∧ l ≠ .closeBrace ∧ l ≠ .comma := by
  cases v with
  | null | bool | number | text | array | object =>
      exact ⟨_, _, rfl, Lexeme.noConfusion, Lexeme.noConfusion, Lexeme.noConfusion⟩

theorem elementLexemes_cons (v : Value) (vs : List Value) :
    elementLexemes (v :: vs) = v.lexemes ++ vs.flatMap fun w => .comma :: w.lexemes := by
  induction vs generalizing v with
  | nil => rw [elementLexemes, List.flatMap_nil, List.append_nil]
  | cons w vs ih => rw [elementLexemes, ih w, List.flatMap_cons, List.cons_append]

/-- The lexemes of one member of an object. -/
def memberPart (m : String × Value) : List Lexeme :=
  .text (some m.1) :: .colon :: m.2.lexemes

theorem memberLexemes_cons (m : String × Value) (ms : List (String × Value)) :
    memberLexemes (m :: ms) =
      memberPart m ++ ms.flatMap fun other => .comma :: memberPart other := by
  induction ms generalizing m with
  | nil => rw [memberLexemes, List.flatMap_nil, List.append_nil, memberPart]
  | cons next ms ih =>
      rw [memberLexemes, ih next]
      rfl

/-! ## Skipping -/

theorem skipFrom_cons {state next : SkipState} {frames inner : List Frame} {l : Lexeme}
    {rest : List Lexeme} (goesOn : ¬ (state = .after ∧ frames = []))
    (step : SkipState.step state frames l = .ok (next, inner)) :
    skipFrom state frames (l :: rest) = skipFrom next inner rest := by
  rw [skipFrom, if_neg goesOn, step]

theorem skipFrom_close (frame : Frame) {frames : List Frame} {rest : List Lexeme} :
    skipFrom .first (frame :: frames) (SkipState.closing frame :: rest) =
        skipFrom .after frames rest ∧
      skipFrom .after (frame :: frames) (SkipState.closing frame :: rest) =
        skipFrom .after frames rest :=
  ⟨skipFrom_cons (by simp) (if_pos rfl), skipFrom_cons (by simp) (if_pos rfl)⟩

/-- The first element of an array is a value like the others. -/
theorem skipFrom_first_array {frames : List Frame} {v : Value} {rest : List Lexeme} :
    skipFrom .first (.array :: frames) (v.lexemes ++ rest) =
      skipFrom .value (.array :: frames) (v.lexemes ++ rest) := by
  rcases exists_lexemes_eq_cons v with ⟨l, ls, front, notClose, -⟩
  rw [front, List.cons_append, skipFrom, skipFrom]
  have goesOn : l ≠ SkipState.closing .array := notClose
  simp only [SkipState.step, if_neg goesOn, reduceCtorEq, false_and, if_false]

mutual

/-- Skipping a value leaves the frames around it as they were. -/
theorem skipFrom_value (v : Value) (frames : List Frame) (rest : List Lexeme) :
    skipFrom .value frames (v.lexemes ++ rest) = skipFrom .after frames rest := by
  match v with
  | .null | .bool _ | .number _ | .text _ => exact skipFrom_cons (by simp) rfl
  | .array [] => exact (skipFrom_cons (by simp) rfl).trans (skipFrom_close .array).1
  | .array (v :: vs) =>
      have first : skipFrom .first (.array :: frames)
          (elementLexemes (v :: vs) ++ .closeBracket :: rest) =
            skipFrom .value (.array :: frames)
              (elementLexemes (v :: vs) ++ .closeBracket :: rest) := by
        rw [elementLexemes_cons, List.append_assoc]
        exact skipFrom_first_array
      rw [Value.lexemes, List.append_assoc, List.cons_append, skipFrom_cons (by simp) rfl,
        List.singleton_append, first, skipFrom_elements (v :: vs) (List.cons_ne_nil v vs)]
  | .object [] => exact (skipFrom_cons (by simp) rfl).trans (skipFrom_close .object).1
  | .object ((key, v) :: ms) =>
      have first : skipFrom .first (.object :: frames)
          (memberLexemes ((key, v) :: ms) ++ .closeBrace :: rest) =
            skipFrom .key (.object :: frames)
              (memberLexemes ((key, v) :: ms) ++ .closeBrace :: rest) := by
        rw [memberLexemes_cons, memberPart]
        exact (skipFrom_cons (by simp) rfl).trans (skipFrom_cons (by simp) rfl).symm
      rw [Value.lexemes, List.append_assoc, List.cons_append, skipFrom_cons (by simp) rfl,
        List.singleton_append, first, skipFrom_members ((key, v) :: ms) (List.cons_ne_nil _ ms)]

theorem skipFrom_elements (elements : List Value) (some_ : elements ≠ []) (frames : List Frame)
    (rest : List Lexeme) :
    skipFrom .value (.array :: frames) (elementLexemes elements ++ .closeBracket :: rest) =
      skipFrom .after frames rest := by
  match elements with
  | [] => exact absurd rfl some_
  | [v] =>
      rw [elementLexemes, skipFrom_value v]
      exact (skipFrom_close .array).2
  | v :: w :: vs =>
      rw [elementLexemes, List.append_assoc, skipFrom_value v, List.cons_append,
        skipFrom_cons (by simp) rfl, skipFrom_elements (w :: vs) (List.cons_ne_nil w vs)]

theorem skipFrom_members (members : List (String × Value)) (some_ : members ≠ [])
    (frames : List Frame) (rest : List Lexeme) :
    skipFrom .key (.object :: frames) (memberLexemes members ++ .closeBrace :: rest) =
      skipFrom .after frames rest := by
  match members with
  | [] => exact absurd rfl some_
  | [(key, v)] =>
      rw [memberLexemes, List.cons_append, List.cons_append, skipFrom_cons (by simp) rfl,
        skipFrom_cons (by simp) rfl, skipFrom_value v]
      exact (skipFrom_close .object).2
  | (key, v) :: next :: ms =>
      rw [memberLexemes, List.append_assoc, List.cons_append, List.cons_append,
        skipFrom_cons (by simp) rfl, skipFrom_cons (by simp) rfl, skipFrom_value v,
        List.cons_append, skipFrom_cons (by simp) rfl,
        skipFrom_members (next :: ms) (List.cons_ne_nil next ms)]

end

/-- Any value can be skipped. -/
theorem reads_skip (v : Value) : Reads skip v () := by
  intro rest
  rw [skip, skipFrom_value]
  cases rest with
  | nil => rfl
  | cons l rest => rfl

/-! ## Simple values -/

theorem reads_readNat {limit n : Nat} (fits : n ≤ limit) (word : n < Numeral.wordBound) :
    Reads (readNat limit) (.ofNat n) n := by
  intro rest
  simp only [Value.ofNat, Value.lexemes, List.singleton_append, readNat,
    Numeral.toWord?_ofNat word, if_pos fits]

theorem reads_readBool (b : Bool) : Reads readBool (.bool b) b :=
  fun _ => rfl

theorem reads_readText (s : String) : Reads readText (.text s) s :=
  fun _ => rfl

/-! ## Arrays -/

variable {read : Reader α} {write : α → Value}

/-- An element that is read, and then the elements behind it. -/
theorem readElements_cons {first : Bool} {lexemes start rest : List Lexeme} {a : α}
    (next : nextElement first lexemes = .ok (some start)) (reads : read start = .ok (a, rest))
    (shorter : rest.length < lexemes.length) :
    readElements read first lexemes = (readElements read false rest).map fun (more, rest) =>
      (a :: more, rest) := by
  rw [readElements, next]
  simp only [reads, dif_pos shorter]
  cases readElements read false rest with
  | error fault => rfl
  | ok found => rfl

theorem nextElement_value (v : Value) (rest : List Lexeme) :
    nextElement true (v.lexemes ++ rest) = .ok (some (v.lexemes ++ rest)) ∧
      nextElement false (.comma :: (v.lexemes ++ rest)) = .ok (some (v.lexemes ++ rest)) := by
  rcases exists_lexemes_eq_cons v with ⟨l, ls, front, notClose, -, -⟩
  rw [front, List.cons_append]
  constructor
  · simp [nextElement]
  · simp [nextElement, notClose]

/-- Behind an element of an array stand others, each behind a comma, and then its end. -/
theorem readElements_tail {l : List α} (each : ∀ a ∈ l, Reads read (write a) a)
    (rest : List Lexeme) :
    readElements read false
        ((l.flatMap fun a => .comma :: (write a).lexemes) ++ .closeBracket :: rest) =
      .ok (l, rest) := by
  induction l with
  | nil =>
      rw [readElements]
      rfl
  | cons a l ih =>
      rcases List.forall_mem_cons.1 each with ⟨ofFirst, ofOthers⟩
      rw [List.flatMap_cons, List.append_assoc, List.cons_append,
        readElements_cons (nextElement_value (write a) _).2 (ofFirst _), ih ofOthers]
      · rfl
      · simp only [List.length_cons, List.length_append]
        omega

/-- An array is read when each of its elements is. -/
theorem reads_readArray {l : List α} (each : ∀ a ∈ l, Reads read (write a) a) :
    Reads (readArray read) (.array (l.map write)) l := by
  intro rest
  rw [Value.lexemes, List.append_assoc, List.cons_append, readArray, List.singleton_append]
  cases l with
  | nil =>
      rw [readElements]
      rfl
  | cons a l =>
      rcases List.forall_mem_cons.1 each with ⟨ofFirst, ofOthers⟩
      rw [List.map_cons, elementLexemes_cons, List.append_assoc, List.flatMap_map,
        readElements_cons (nextElement_value (write a) _).1 (ofFirst _),
        readElements_tail ofOthers]
      · rfl
      · rcases exists_lexemes_eq_cons (write a) with ⟨first, ls, front, -⟩
        rw [front]
        simp only [List.length_cons, List.length_append]
        omega

end Json
end EditorAnalysis
