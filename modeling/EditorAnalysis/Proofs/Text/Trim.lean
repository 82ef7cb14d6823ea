import EditorAnalysis.Text.Blank
import Mathlib.Data.List.DropRight

/-!
# A text without what stands around it

What is left of a text without the characters of a class at its ends: the part of it that has only
such characters on both sides, and that neither begins nor ends with one.
-/

namespace EditorAnalysis
namespace Text

variable {p : Char → Bool}

theorem trimEnd_append_of_pos {text back : List Char} (inClass : ∀ c ∈ back, p c = true) :
    trimEnd p (text ++ back) = trimEnd p text := by
  have inClass' : ∀ c ∈ back.reverse, p c = true := fun c hc => inClass c (List.mem_reverse.1 hc)
  rw [trimEnd, List.reverse_append, List.dropWhile_append_of_pos inClass', trimEnd]

/-- A character that is no member of the class stops the trimming. -/
theorem trimEnd_append_of_mem {text back : List Char} {c : Char} (inBack : c ∈ back)
    (outside : p c = false) : trimEnd p (text ++ back) = text ++ trimEnd p back := by
  have kept : (back.reverse.dropWhile p).isEmpty = false := by
    rw [List.isEmpty_eq_false_iff]
    intro none
    rw [List.dropWhile_eq_nil_iff.1 none c (List.mem_reverse.2 inBack)] at outside
    cases outside
  rw [trimEnd, List.reverse_append, List.dropWhile_append, if_neg (by simp [kept]),
    List.reverse_append, List.reverse_reverse, trimEnd]

theorem trimEnd_eq_self {text : List Char} (outside : ∀ c ∈ text, p c = false) :
    trimEnd p text = text := by
  refine List.rdropWhile_eq_self_iff.2 fun nonempty => ?_
  simp [outside _ (List.getLast_mem nonempty)]

theorem trim_append_of_pos {front text back : List Char} (frontInClass : ∀ c ∈ front, p c = true)
    (backInClass : ∀ c ∈ back, p c = true) : trim p (front ++ text ++ back) = trim p text := by
  rw [trim, List.append_assoc, List.dropWhile_append_of_pos frontInClass, List.dropWhile_append]
  split
  case isTrue allInClass =>
    rw [List.isEmpty_iff] at allInClass
    have none : back.dropWhile p = [] := List.dropWhile_eq_nil_iff.2 backInClass
    rw [none, trim, allInClass]
  case isFalse => rw [trimEnd_append_of_pos backInClass, trim]

theorem trim_eq_trimEnd {front rest : List Char} (some_ : front ≠ [])
    (outside : ∀ c ∈ front, p c = false) : trim p (front ++ rest) = trimEnd p (front ++ rest) := by
  cases front with
  | nil => exact absurd rfl some_
  | cons c front =>
      have first : p c = false := outside c List.mem_cons_self
      rw [trim, List.cons_append, List.dropWhile_cons_of_neg (by simp [first])]

/-- The part of a text that characters of a class stand around, and that has none of them at its
own ends. -/
structure IsTrimmed (P : Char → Prop) (text core : List Char) : Prop where
  around : ∃ front back, text = front ++ core ++ back ∧ (∀ c ∈ front, P c) ∧ ∀ c ∈ back, P c
  first : ∀ c, core.head? = some c → ¬ P c
  last : ∀ c, core.getLast? = some c → ¬ P c

theorem not_of_head?_dropWhile {text : List Char} {c : Char}
    (front : (text.dropWhile p).head? = some c) : ¬ p c = true := by
  have outside := List.head?_dropWhile_not p text
  rw [front] at outside
  simp [outside]

/-- Trimming gives the only such part. -/
theorem trim_eq_iff {P : Char → Prop} (agrees : ∀ c, p c = true ↔ P c) {text core : List Char} :
    trim p text = core ↔ IsTrimmed P text core := by
  constructor
  · rintro rfl
    have back : trim p text ++ (text.dropWhile p).rtakeWhile p = text.dropWhile p :=
      List.rdropWhile_append_rtakeWhile
    refine ⟨⟨text.takeWhile p, (text.dropWhile p).rtakeWhile p, ?_, ?_, ?_⟩, ?_, ?_⟩
    · rw [List.append_assoc, back, List.takeWhile_append_dropWhile]
    · exact fun c hc => (agrees c).1 (List.mem_takeWhile_imp hc)
    · exact fun c hc => (agrees c).1 (List.mem_rtakeWhile_imp hc)
    · intro c isFirst
      have front : (text.dropWhile p).head? = some c := by
        rw [← back, List.head?_append, isFirst, Option.some_or]
      exact fun inClass => not_of_head?_dropWhile front ((agrees c).2 inClass)
    · intro c isLast
      have front : ((text.dropWhile p).reverse.dropWhile p).head? = some c := by
        rwa [trim, trimEnd, List.getLast?_reverse] at isLast
      exact fun inClass => not_of_head?_dropWhile front ((agrees c).2 inClass)
  · rintro ⟨⟨front, back, rfl, frontInClass, backInClass⟩, first, last⟩
    rw [trim_append_of_pos (fun c hc => (agrees c).2 (frontInClass c hc))
      fun c hc => (agrees c).2 (backInClass c hc)]
    cases core with
    | nil => rfl
    | cons c rest =>
        rw [trim, List.dropWhile_cons_of_neg fun inClass => first c rfl ((agrees c).1 inClass)]
        refine List.rdropWhile_eq_self_iff.2 fun nonempty inClass => ?_
        exact last _ (List.getLast?_eq_some_getLast nonempty) ((agrees _).1 inClass)

end Text
end EditorAnalysis
