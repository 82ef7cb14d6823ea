import EditorAnalysis.Proofs.Python.OpenStrings
import Mathlib.Data.Nat.Find

/-!
# The first closer of a string

The search for the end of a string goes from one live place of a row to the next. It ends at the
first of them where a closer stands; where there is none, it comes to the end of the row, and a
backslash that it meets there takes the line break away. `LiveAt` counts live places from the front
of what is searched, and `LiveFrom` by their columns in the row.
-/

namespace EditorAnalysis
namespace Python

variable {quote : Char} {triple : Bool} {cs : List Char} {n : Nat}

/-! ## Live places -/

/-- The places of a row to which one comes from a place in it. -/
def LiveFrom (row : List Char) (start place : Nat) : Prop :=
  ∃ n, place = start + n ∧ LiveAt (row.drop start) n

/-- Live places by their columns and by their distance from the start are the same places. -/
theorem exists_liveFrom_iff {row : List Char} {start : Nat} {P : Nat → Prop} :
    (∃ place, LiveFrom row start place ∧ P place) ↔
      ∃ n, LiveAt (row.drop start) n ∧ P (start + n) := by
  constructor
  · rintro ⟨_, ⟨n, rfl, live⟩, here⟩
    exact ⟨n, live, here⟩
  · rintro ⟨n, live, here⟩
    exact ⟨start + n, ⟨n, rfl, live⟩, here⟩

theorem forall_lt_liveFrom_iff {row : List Char} {start : Nat} {P : Nat → Prop} :
    (∀ place < start + n, LiveFrom row start place → P place) ↔
      ∀ m < n, LiveAt (row.drop start) m → P (start + m) := by
  constructor
  · intro all m before live
    exact all (start + m) (Nat.add_lt_add_left before start) ⟨m, rfl, live⟩
  · rintro all _ before ⟨m, rfl, live⟩
    exact all m (Nat.lt_of_add_lt_add_left before) live

/-- One always comes to the end of a row. -/
theorem LiveAt.length (cs : List Char) : LiveAt cs cs.length := by
  -- The induction is that of the search: over two characters at a backslash that has one behind it.
  match cs with
  | [] => exact .front
  | [c] => exact .plain (fun _ => rfl) .front
  | c :: d :: rest =>
      by_cases isBackslash : c = '\\'
      · subst isBackslash
        exact .escape (LiveAt.length rest)
      · exact .plain (fun other => absurd other isBackslash) (LiveAt.length (d :: rest))

theorem drop_eq_singleton_iff {l : List Char} {c : Char} :
    l.drop n = [c] ↔ n + 1 = l.length ∧ l[n]? = some c := by
  constructor
  · intro last
    have length := congrArg List.length last
    rw [List.length_drop, List.length_singleton] at length
    exact ⟨by omega, by rw [← List.head?_drop, last, List.head?_cons]⟩
  · rintro ⟨atEnd, here⟩
    rcases List.getElem?_eq_some_iff.1 here with ⟨inside, rfl⟩
    rw [List.drop_eq_getElem_cons inside, List.drop_eq_nil_of_le (Nat.le_of_eq atEnd.symm)]

/-- Behind the last character of a row stands no closer. -/
theorem lt_length_of_closer_prefix_drop (here : closer quote triple <+: cs.drop n) :
    n < cs.length := by
  rcases exists_cons_of_closer_prefix here with ⟨rest, front, -⟩
  have length := congrArg List.length front
  rw [List.length_drop, List.length_cons] at length
  omega

namespace StringEnd

/-! ## Steps of the search -/

@[simp] theorem shift_zero (found : StringEnd) : found.shift 0 = found := by
  cases found with
  | closed length => exact congrArg closed (Nat.zero_add length)
  | unclosed escaped => rfl

@[simp] theorem shift_shift (found : StringEnd) (m n : Nat) :
    (found.shift m).shift n = found.shift (m + n) := by
  cases found with
  | closed length => exact congrArg closed (by omega)
  | unclosed escaped => rfl

theorem shift_eq_closed_iff {found : StringEnd} {k stop : Nat} :
    found.shift k = .closed stop ↔ ∃ length, found = .closed length ∧ stop = k + length := by
  constructor
  · exact exists_of_shift_eq_closed
  · rintro ⟨length, rfl, rfl⟩
    rfl

theorem shift_eq_unclosed_iff {found : StringEnd} {k : Nat} {escaped : Bool} :
    found.shift k = .unclosed escaped ↔ found = .unclosed escaped := by
  cases found with
  | closed length =>
      constructor
      · intro h
        cases h
      · intro h
        cases h
  | unclosed escaped => exact Iff.rfl

/-- A closer at the front ends the search. -/
theorem find_of_closer (notEscape : quote ≠ '\\') (here : closer quote triple <+: cs) :
    find quote triple cs = .closed (closer quote triple).length := by
  rcases exists_cons_of_closer_prefix here with ⟨rest, rfl, three⟩
  rw [find.eq_4 _ _ _ _ (fun isEscape _ => notEscape isEscape) fun _ _ isEscape _ =>
    notEscape isEscape, if_pos rfl]
  cases triple with
  | false => rfl
  | true => rw [if_neg (by simp), if_pos (three rfl)]; rfl

/-- Over a character that is no backslash, and at which no closer stands, the search goes on. -/
theorem find_of_plain {c : Char} (plain : c ≠ '\\') (notHere : ¬ closer quote triple <+: c :: cs) :
    find quote triple (c :: cs) = (find quote triple cs).shift 1 := by
  rw [find.eq_4 _ _ _ _ (fun isEscape _ => plain isEscape) fun _ _ isEscape _ => plain isEscape]
  split
  case isFalse => rfl
  case isTrue isQuote =>
    subst isQuote
    -- One quote alone is no closer, so three are asked for and are not there.
    cases triple with
    | false => exact absurd ⟨cs, rfl⟩ notHere
    | true =>
        rw [if_neg (by simp), if_neg]
        intro pair
        refine notHere ⟨cs.drop 2, ?_⟩
        rw [← List.take_append_drop 2 cs, pair]
        rfl

/-- The search says the same from its start and from any live place, as long as it meets no closer
and no backslash at the end of the row on its way. -/
theorem find_eq_shift (live : LiveAt cs n)
    (noCloser : ∀ m < n, LiveAt cs m → ¬ closer quote triple <+: cs.drop m)
    (noBreak : ∀ m < n, LiveAt cs m → cs.drop m ≠ ['\\']) :
    find quote triple cs = (find quote triple (cs.drop n)).shift n := by
  induction live with
  | front => rw [List.drop_zero, shift_zero]
  | @escape c cs n _ ih =>
      have rest := ih (fun m before at_ => noCloser (m + 2) (by omega) (.escape at_))
        fun m before at_ => noBreak (m + 2) (by omega) (.escape at_)
      calc find quote triple ('\\' :: c :: cs)
          = (find quote triple cs).shift 2 := rfl
        _ = ((find quote triple (cs.drop n)).shift n).shift 2 := by rw [← rest]
        _ = (find quote triple (('\\' :: c :: cs).drop (n + 2))).shift (n + 2) := by
            rw [shift_shift]; rfl
  | @plain c cs n alone _ ih =>
      have rest := ih (fun m before at_ => noCloser (m + 1) (by omega) (.plain alone at_))
        fun m before at_ => noBreak (m + 1) (by omega) (.plain alone at_)
      have notBackslash : c ≠ '\\' := by
        intro isBackslash
        exact noBreak 0 (Nat.succ_pos n) .front (by rw [isBackslash, alone isBackslash]; rfl)
      calc find quote triple (c :: cs)
          = (find quote triple cs).shift 1 :=
            find_of_plain notBackslash (noCloser 0 (Nat.succ_pos n) .front)
        _ = ((find quote triple (cs.drop n)).shift n).shift 1 := by rw [← rest]
        _ = (find quote triple ((c :: cs).drop (n + 1))).shift (n + 1) := by
            rw [shift_shift]; rfl

/-! ## What the search finds -/

/-- A backslash at the end of a row stands in front of no place with a character. -/
theorem drop_ne_backslash {m : Nat} (before : m < n) (inside : n < cs.length) :
    cs.drop m ≠ ['\\'] := by
  intro last
  have atEnd := (drop_eq_singleton_iff.1 last).1
  omega

/-- The search ends behind the closer at the least live place that has one. -/
theorem find_eq_closed_iff {length : Nat} (notEscape : quote ≠ '\\') :
    find quote triple cs = .closed length ↔
      ∃ n, LiveAt cs n ∧ closer quote triple <+: cs.drop n ∧
        (∀ m < n, LiveAt cs m → ¬ closer quote triple <+: cs.drop m) ∧
        length = n + (closer quote triple).length := by
  have atFirst {n : Nat} (live : LiveAt cs n) (here : closer quote triple <+: cs.drop n)
      (first : ∀ m < n, LiveAt cs m → ¬ closer quote triple <+: cs.drop m) :
      find quote triple cs = .closed (n + (closer quote triple).length) := by
    have inside := lt_length_of_closer_prefix_drop here
    rw [find_eq_shift live first fun m before _ => drop_ne_backslash before inside,
      find_of_closer notEscape here, shift]
  constructor
  · intro found
    have holds : ∃ n, LiveAt cs n ∧ closer quote triple <+: cs.drop n :=
      holdsCloser_of_closed found
    classical
    have first : ∀ m < Nat.find holds, LiveAt cs m → ¬ closer quote triple <+: cs.drop m :=
      fun m before live here => Nat.find_min holds before ⟨live, here⟩
    rcases Nat.find_spec holds with ⟨live, here⟩
    have atLeast := atFirst live here first
    exact ⟨Nat.find holds, live, here, first, closed.inj (found.symm.trans atLeast)⟩
  · rintro ⟨n, live, here, first, rfl⟩
    exact atFirst live here first

/-- Without a closer the search takes the line break away just when it comes to a backslash at the
end of the row. -/
theorem find_eq_unclosed_iff {escaped : Bool} (notEscape : quote ≠ '\\') :
    find quote triple cs = .unclosed escaped ↔
      ¬ HoldsCloser quote triple cs ∧
        (escaped = true ↔ ∃ n, LiveAt cs n ∧ cs.drop n = ['\\']) := by
  have atBackslash {n : Nat} (none_ : ¬ HoldsCloser quote triple cs) (live : LiveAt cs n)
      (last : cs.drop n = ['\\']) : find quote triple cs = .unclosed true := by
    have inside : n < cs.length := Nat.lt_of_succ_le (Nat.le_of_eq (drop_eq_singleton_iff.1 last).1)
    rw [find_eq_shift live (fun m _ at_ here => none_ ⟨m, at_, here⟩)
      fun m before _ => drop_ne_backslash before inside, last]
    rfl
  have atEnd (none_ : ¬ HoldsCloser quote triple cs)
      (noBreak : ¬ ∃ n, LiveAt cs n ∧ cs.drop n = ['\\']) :
      find quote triple cs = .unclosed false := by
    rw [find_eq_shift (LiveAt.length cs) (fun m _ at_ here => none_ ⟨m, at_, here⟩)
      fun m _ at_ last => noBreak ⟨m, at_, last⟩, List.drop_length]
    rfl
  have either (none_ : ¬ HoldsCloser quote triple cs) : find quote triple cs = .unclosed escaped ↔
      (escaped = true ↔ ∃ n, LiveAt cs n ∧ cs.drop n = ['\\']) := by
    by_cases breaks : ∃ n, LiveAt cs n ∧ cs.drop n = ['\\']
    · rcases breaks with ⟨n, live, last⟩
      have there : ∃ n, LiveAt cs n ∧ cs.drop n = ['\\'] := ⟨n, live, last⟩
      rw [atBackslash none_ live last, iff_true_right there]
      exact ⟨fun same => (unclosed.inj same).symm, fun isTrue => isTrue ▸ rfl⟩
    · rw [atEnd none_ breaks, iff_false_right breaks, Bool.not_eq_true]
      exact ⟨fun same => (unclosed.inj same).symm, fun isFalse => isFalse ▸ rfl⟩
  constructor
  · intro found
    have none_ := not_holdsCloser notEscape found
    exact ⟨none_, (either none_).1 found⟩
  · rintro ⟨none_, flag⟩
    exact (either none_).2 flag

/-- Searched from a place of a row on, a string closes behind the first closer that stands at a
live place, and always within the row; it stays open when there is none, and then the line break
is taken away just when the last character of the row is a backslash at a live place. -/
theorem find_first_live_closer (quote : Char) (triple : Bool) (row : List Char) (start : Nat)
    (notEscape : quote ≠ '\\') (within : start ≤ row.length) :
    ((∃ stop, (find quote triple (row.drop start)).shift start = .closed stop) ↔
        ∃ place, LiveFrom row start place ∧ closer quote triple <+: row.drop place) ∧
      (∀ stop, (find quote triple (row.drop start)).shift start = .closed stop ↔
        ∃ place, LiveFrom row start place ∧ closer quote triple <+: row.drop place ∧
          (∀ other < place, LiveFrom row start other →
            ¬ closer quote triple <+: row.drop other) ∧
          stop = place + (closer quote triple).length) ∧
      (∀ stop, (find quote triple (row.drop start)).shift start = .closed stop →
        start < stop ∧ stop ≤ row.length) ∧
      ∀ escaped, (find quote triple (row.drop start)).shift start = .unclosed escaped ↔
        (¬ ∃ place, LiveFrom row start place ∧ closer quote triple <+: row.drop place) ∧
          (escaped = true ↔ ∃ place, LiveFrom row start place ∧ place + 1 = row.length ∧
            row[place]? = some '\\') := by
  have holds : (∃ place, LiveFrom row start place ∧ closer quote triple <+: row.drop place) ↔
      HoldsCloser quote triple (row.drop start) := by
    simp only [exists_liveFrom_iff, HoldsCloser, List.drop_drop]
  refine ⟨?_, fun stop => ?_, fun stop found => ?_, fun escaped => ?_⟩
  · rw [holds, ← exists_find_eq_closed_iff notEscape]
    simp only [shift_eq_closed_iff]
    exact ⟨fun ⟨_, length, found, _⟩ => ⟨length, found⟩,
      fun ⟨length, found⟩ => ⟨_, length, found, rfl⟩⟩
  · simp only [shift_eq_closed_iff, find_eq_closed_iff notEscape, exists_liveFrom_iff,
      forall_lt_liveFrom_iff, List.drop_drop]
    constructor
    · rintro ⟨_, ⟨n, live, here, first, rfl⟩, rfl⟩
      exact ⟨n, live, here, first, (Nat.add_assoc _ _ _).symm⟩
    · rintro ⟨n, live, here, first, rfl⟩
      exact ⟨_, ⟨n, live, here, first, rfl⟩, Nat.add_assoc _ _ _⟩
  · rcases exists_of_shift_eq_closed found with ⟨length, behind, rfl⟩
    have fits := le_of_find_eq_closed behind
    rcases (find_eq_closed_iff notEscape).1 behind with ⟨n, -, -, -, rfl⟩
    rw [List.length_drop] at fits
    have some_ : 0 < (closer quote triple).length := by
      rw [closer, List.length_replicate]
      split <;> omega
    omega
  · rw [shift_eq_unclosed_iff, find_eq_unclosed_iff notEscape, holds]
    simp only [exists_liveFrom_iff, ← drop_eq_singleton_iff, List.drop_drop]

/-- The first quote behind the opening ones is taken away by a backslash, and the two behind it are
too few; the backslash in front of the closing ones is itself taken away. -/
theorem find_first_live_closer_escaped :
    let row := "'''\\'''b\\\\''''".toList
    '\'' ≠ '\\' ∧ 3 ≤ row.length ∧
      (∃ place, LiveFrom row 3 place ∧ closer '\'' true <+: row.drop place ∧
        (∀ other < place, LiveFrom row 3 other → ¬ closer '\'' true <+: row.drop other) ∧
        13 = place + (closer '\'' true).length) ∧
      13 ≤ row.length := by
  intro row
  have notEscape : '\'' ≠ '\\' := by decide
  have within : 3 ≤ row.length := by decide
  have found : (find '\'' true (row.drop 3)).shift 3 = .closed 13 := by decide
  rcases find_first_live_closer '\'' true row 3 notEscape within with ⟨-, closes, inside, -⟩
  exact ⟨notEscape, within, (closes 13).1 found, (inside 13 found).2⟩

end StringEnd
end Python
end EditorAnalysis
