import Mathlib.Data.List.DropRight
import Mathlib.Data.List.TakeWhile

/-!
# Runs of characters at the ends of a line

The longest run of characters of a class that a line begins with, and the longest that it ends
with. Such runs are also what a search for a pattern finds: a pattern is tried at each place of
the line in turn, and a part of it that may repeat takes as many characters as it can and gives
back no more of them than the parts behind it need.
-/

namespace EditorAnalysis
namespace Text

/-- The longest text of a class of characters that a line begins with. -/
structure IsFrontRun (P : Char → Prop) (line run : List Char) : Prop where
  isFront : run <+: line
  all : ∀ c ∈ run, P c
  longest : ∀ other, other <+: line → (∀ c ∈ other, P c) → other.length ≤ run.length

/-- The longest text of a class of characters that a line ends with. -/
structure IsBackRun (P : Char → Prop) (line run : List Char) : Prop where
  isBack : run <:+ line
  all : ∀ c ∈ run, P c
  longest : ∀ other, other <:+ line → (∀ c ∈ other, P c) → other.length ≤ run.length

variable {P : Char → Prop} {p : Char → Bool} {line run : List Char}

/-- The characters up to the first that is not in the class are the longest run in front. -/
theorem isFrontRun_iff (agrees : ∀ c, p c = true ↔ P c) :
    IsFrontRun P line run ↔ run = line.takeWhile p := by
  have inFront : ∀ other, other <+: line → (∀ c ∈ other, P c) →
      other.length ≤ (line.takeWhile p).length := by
    rintro other ⟨rest, rfl⟩ all
    rw [List.takeWhile_append_of_pos fun c hc => (agrees c).2 (all c hc), List.length_append]
    exact Nat.le_add_right _ _
  constructor
  · rintro ⟨isFront, all, longest⟩
    have noLonger := inFront run isFront all
    have noShorter := longest (line.takeWhile p) (List.takeWhile_prefix p)
      fun c hc => (agrees c).1 (List.mem_takeWhile_imp hc)
    exact (List.prefix_of_prefix_length_le isFront (List.takeWhile_prefix p) noLonger).eq_of_length
      (Nat.le_antisymm noLonger noShorter)
  · rintro rfl
    exact ⟨List.takeWhile_prefix p, fun c hc => (agrees c).1 (List.mem_takeWhile_imp hc), inFront⟩

/-- Read backwards, a line begins with what it ended with. -/
theorem isBackRun_iff_reverse :
    IsBackRun P line run ↔ IsFrontRun P line.reverse run.reverse := by
  constructor
  · rintro ⟨isBack, all, longest⟩
    refine ⟨List.reverse_prefix.2 isBack, fun c hc => all c (List.mem_reverse.1 hc), ?_⟩
    intro other isFront allOther
    have isBackOther : other.reverse <:+ line := by
      rwa [← List.reverse_prefix, List.reverse_reverse]
    simpa using longest other.reverse isBackOther fun c hc => allOther c (List.mem_reverse.1 hc)
  · rintro ⟨isFront, all, longest⟩
    refine ⟨List.reverse_prefix.1 isFront, fun c hc => all c (List.mem_reverse.2 hc), ?_⟩
    intro other isBack allOther
    simpa using longest other.reverse (List.reverse_prefix.2 isBack) fun c hc =>
      allOther c (List.mem_reverse.1 hc)

theorem isBackRun_iff (agrees : ∀ c, p c = true ↔ P c) :
    IsBackRun P line run ↔ run = line.rtakeWhile p := by
  rw [isBackRun_iff_reverse, isFrontRun_iff agrees, List.rtakeWhile, List.reverse_eq_iff]

/-- A character in front of a line belongs to the run at the end only if all of the line does. -/
theorem rtakeWhile_cons (p : Char → Bool) (c : Char) (cs : List Char) :
    (c :: cs).rtakeWhile p = if (c :: cs).all p then c :: cs else cs.rtakeWhile p := by
  split
  case isTrue all => exact List.rtakeWhile_eq_self_iff.2 (by simpa using all)
  case isFalse notAll =>
    rw [List.rtakeWhile, List.reverse_cons, List.takeWhile_append]
    split
    case isTrue whole =>
      have allOfRest : ∀ d ∈ cs, p d = true := by
        have same := (List.takeWhile_prefix p).eq_of_length whole
        simpa using List.takeWhile_eq_self_iff.1 same
      have notFirst : ¬ p c = true := by simp_all
      simp [notFirst, List.rtakeWhile_eq_self_iff.2 allOfRest]
    case isFalse => rfl

/-! ## Searching -/

/-- A part of a pattern. -/
inductive Piece where
  /-- One character of a class. -/
  | one (p : Char → Bool)
  /-- Any number of characters of a class, and rather more than fewer. -/
  | many (p : Char → Bool)
  /-- Nothing, at the end of the line. -/
  | atEnd

/-- Takes characters of a class as long as there are any, and then fewer and fewer of them until
what follows can be matched behind them. The lengths of both together are given back. -/
def matchMany? (p : Char → Bool) (behind : List Char → Option Nat) : List Char → Option Nat
  | [] => behind []
  | c :: cs =>
    (if p c then (matchMany? p behind cs).map (· + 1) else none).orElse fun _ => behind (c :: cs)

/-- The length of the match of a pattern at the front of a text. -/
def matchFront? : List Piece → List Char → Option Nat
  | [], _ => some 0
  | .one p :: rest, c :: cs => if p c then (matchFront? rest cs).map (· + 1) else none
  | .one _ :: _, [] => none
  | .many p :: rest, cs => matchMany? p (matchFront? rest) cs
  | .atEnd :: rest, cs => if cs = [] then matchFront? rest cs else none

/-- The place and the length of the first match of a pattern in a text. -/
def search? (pattern : List Piece) : List Char → Option (Nat × Nat)
  | [] => (matchFront? pattern []).map (0, ·)
  | c :: cs =>
    match matchFront? pattern (c :: cs) with
    | some length => some (0, length)
    | none => (search? pattern cs).map fun (start, length) => (start + 1, length)

section

variable (p : Char → Bool) (pattern : List Piece) (c : Char) (cs : List Char)

@[simp] theorem matchFront?_nil : matchFront? [] cs = some 0 :=
  rfl

@[simp] theorem matchFront?_one_cons :
    matchFront? (.one p :: pattern) (c :: cs) =
      if p c then (matchFront? pattern cs).map (· + 1) else none :=
  rfl

@[simp] theorem matchFront?_many_cons :
    matchFront? (.many p :: pattern) (c :: cs) =
      (if p c then (matchFront? (.many p :: pattern) cs).map (· + 1) else none).orElse fun _ =>
        matchFront? pattern (c :: cs) :=
  rfl

@[simp] theorem matchFront?_atEnd_cons : matchFront? (.atEnd :: pattern) (c :: cs) = none :=
  rfl

end

/-- A repeated part at the end of a pattern takes the whole run. -/
theorem matchFront?_many (p : Char → Bool) (cs : List Char) :
    matchFront? [.many p] cs = some (cs.takeWhile p).length := by
  induction cs with
  | nil => rfl
  | cons c cs ih =>
      by_cases inClass : p c = true
      · simp [inClass, ih]
      · simp [inClass]

/-- A character of a narrower class within a run of a wider one: the first part gives characters
back until it comes to one of the narrower class, and the last part takes them again. -/
theorem matchFront?_many_one_many {p q : Char → Bool} (narrower : ∀ c, q c = true → p c = true)
    (cs : List Char) :
    matchFront? [.many p, .one q, .many p] cs =
      if (cs.takeWhile p).any q then some (cs.takeWhile p).length else none := by
  induction cs with
  | nil => rfl
  | cons c cs ih =>
      by_cases inClass : p c = true
      · by_cases later : (cs.takeWhile p).any q = true
        · simp [inClass, ih, later]
        · by_cases here : q c = true
          · simp [inClass, ih, later, here, matchFront?_many]
          · simp [inClass, ih, later, here]
      · have notHere : ¬ q c = true := fun here => inClass (narrower c here)
        simp [inClass, notHere]

theorem matchFront?_many_atEnd (p : Char → Bool) (cs : List Char) :
    matchFront? [.many p, .atEnd] cs = if cs.all p then some cs.length else none := by
  induction cs with
  | nil => rfl
  | cons c cs ih =>
      by_cases inClass : p c = true
      · by_cases rest : cs.all p = true
        · simp [inClass, ih, rest]
        · simp [inClass, ih, rest]
      · simp [inClass]

/-- The first place from which all characters up to the end are of a class is where the run at the
end begins. -/
theorem search?_one_many_atEnd (p : Char → Bool) (line : List Char) :
    search? [.one p, .many p, .atEnd] line =
      if line.rtakeWhile p = [] then none
      else some (line.length - (line.rtakeWhile p).length, (line.rtakeWhile p).length) := by
  induction line with
  | nil => rfl
  | cons c cs ih =>
      have front : matchFront? [.one p, .many p, .atEnd] (c :: cs) =
          if (c :: cs).all p then some (c :: cs).length else none := by
        by_cases inClass : p c = true
        · by_cases rest : cs.all p = true
          · simp [inClass, rest, matchFront?_many_atEnd]
          · simp [inClass, rest, matchFront?_many_atEnd]
        · simp [inClass]
      rw [search?, front, rtakeWhile_cons]
      by_cases all : (c :: cs).all p = true
      · simp [all]
      · have inRest : (cs.rtakeWhile p).length ≤ cs.length :=
          (List.rtakeWhile_suffix p cs).length_le
        rw [if_neg all, if_neg all, ih]
        by_cases none_ : cs.rtakeWhile p = []
        · simp [none_]
        · simp [none_, Nat.succ_sub inRest]

end Text
end EditorAnalysis
