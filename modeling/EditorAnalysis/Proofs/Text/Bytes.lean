import EditorAnalysis.Text.Bytes
import Mathlib.Data.List.Basic

/-!
# Characters between byte offsets

A text is cut at a byte offset when the characters in front take that many bytes. A slice is then
what stands between two such places, and slices that adjoin make one slice.
-/

namespace EditorAnalysis
namespace Text

@[simp] theorem byteLength_append (front rest : List Char) :
    byteLength (front ++ rest) = byteLength front + byteLength rest := by
  induction front with
  | nil => simp [byteLength]
  | cons c front ih => simp [byteLength, ih, Nat.add_assoc]

theorem eq_nil_of_byteLength_eq_zero {text : List Char} (h : byteLength text = 0) : text = [] := by
  cases text with
  | nil => rfl
  | cons c text =>
      have positive := c.utf8Size_pos
      simp only [byteLength] at h
      omega

theorem splitAtByte?_eq_some_iff {n : Nat} {text front rest : List Char} :
    splitAtByte? n text = some (front, rest) ↔ text = front ++ rest ∧ byteLength front = n := by
  induction n, text using splitAtByte?.induct generalizing front rest with
  | case1 text =>
      rw [splitAtByte?]
      constructor
      · intro h
        cases h
        exact ⟨rfl, rfl⟩
      · rintro ⟨rfl, empty⟩
        rw [eq_nil_of_byteLength_eq_zero empty, List.nil_append]
  | case2 n =>
      constructor
      · intro h
        cases h
      · rintro ⟨both, length⟩
        rw [(List.append_eq_nil_iff.1 both.symm).1] at length
        cases length
  | case3 n c text inside =>
      rw [splitAtByte?, if_pos inside]
      constructor
      · intro h
        cases h
      · rintro ⟨both, length⟩
        cases front with
        | nil => cases length
        | cons first front =>
            cases both
            simp only [byteLength] at length
            omega
  | case4 n c text behind ih =>
      rw [splitAtByte?, if_neg behind, Option.map_eq_some_iff]
      constructor
      · rintro ⟨⟨front', rest'⟩, split, same⟩
        rcases ih.1 split with ⟨rfl, length⟩
        cases same
        refine ⟨rfl, ?_⟩
        rw [byteLength]
        omega
      · rintro ⟨both, length⟩
        cases front with
        | nil => cases length
        | cons first front =>
            cases both
            refine ⟨(front, rest), ih.2 ⟨rfl, ?_⟩, rfl⟩
            rw [byteLength] at length
            omega

theorem sliceBytes?_eq_some_iff {text slice : List Char} {start stop : Nat} :
    sliceBytes? text start stop = some slice ↔
      ∃ front rest, text = front ++ slice ++ rest ∧ byteLength front = start ∧
        byteLength slice = stop - start := by
  simp only [sliceBytes?, Option.bind_eq_bind, Option.bind_eq_some_iff, Prod.exists,
    splitAtByte?_eq_some_iff, Option.pure_def, Option.some.injEq]
  constructor
  · rintro ⟨front, _, ⟨rfl, before⟩, _, rest, ⟨rfl, length⟩, rfl⟩
    exact ⟨front, rest, (List.append_assoc ..).symm, before, length⟩
  · rintro ⟨front, rest, rfl, before, length⟩
    exact ⟨front, slice ++ rest, ⟨List.append_assoc .., before⟩, slice, rest, ⟨rfl, length⟩, rfl⟩

/-- Two slices that adjoin make one. -/
theorem sliceBytes?_append {text first second : List Char} {start middle stop : Nat}
    (inOrder : start ≤ middle) (inOrder' : middle ≤ stop)
    (isFirst : sliceBytes? text start middle = some first)
    (isSecond : sliceBytes? text middle stop = some second) :
    sliceBytes? text start stop = some (first ++ second) := by
  rcases sliceBytes?_eq_some_iff.1 isFirst with ⟨front, afterFirst, here, before, length⟩
  rcases sliceBytes?_eq_some_iff.1 isSecond with ⟨front', rest, there, before', length'⟩
  have cutHere : splitAtByte? middle text = some (front ++ first, afterFirst) :=
    splitAtByte?_eq_some_iff.2 ⟨here, by rw [byteLength_append]; omega⟩
  have cutThere : splitAtByte? middle text = some (front', second ++ rest) :=
    splitAtByte?_eq_some_iff.2 ⟨by rw [there, List.append_assoc], before'⟩
  -- The text is cut at the middle in one way only.
  rw [cutHere] at cutThere
  cases cutThere
  refine sliceBytes?_eq_some_iff.2 ⟨front, rest, ?_, before, ?_⟩
  · rw [there, List.append_assoc front]
  · rw [byteLength_append]
    omega

end Text
end EditorAnalysis
