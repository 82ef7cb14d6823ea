import EditorAnalysis.Proofs.Json.Record

/-!
# Refused values

A record is refused when one of its members is, wherever it stands. What stands in front of that
member is read or refused itself; when it is read, just its values are taken off.
-/

namespace EditorAnalysis
namespace Json

open Draft

variable {fields : List Field} {d : Draft fields} {members : List (String × Value)}

/-- Whether a reader refuses a value wherever it stands. -/
def Refuses {α : Type} (read : Reader α) (v : Value) : Prop :=
  ∀ rest, ∃ fault, read (v.lexemes ++ rest) = .error fault

/-- Whether a reader that takes anything off a value takes off just the value. -/
def TakesWhole {α : Type} (read : Reader α) : Prop :=
  ∀ (v : Value) (rest : List Lexeme) (a : α) (left : List Lexeme),
    read (v.lexemes ++ rest) = .ok (a, left) → left = rest

/-! ## Codecs -/

section Codecs

variable {α β : Type}

theorem refuses_convert (codec : Codec α) {v : Value} (refuses : Refuses codec.read v)
    (toFun : α → β) (invFun : β → α) : Refuses (codec.convert toFun invFun).read v := by
  intro rest
  rcases refuses rest with ⟨fault, refusal⟩
  refine ⟨fault, ?_⟩
  simp only [Codec.convert, refusal]
  rfl

theorem Numeral.eq_ofNat_of_toWord? {n : Numeral} {value : Nat} (word : n.toWord? = some value) :
    n = .ofNat value := by
  rw [Numeral.toWord?] at word
  split at word
  case isTrue => cases word
  case isFalse plain =>
    rcases n with ⟨negative, whole, fraction, exponent⟩
    simp only [not_or, Bool.not_eq_true, ne_eq, Decidable.not_not] at plain
    rcases plain with ⟨rfl, rfl, rfl, -⟩
    cases word
    rfl

theorem takesWhole_readNat (limit : Nat) : TakesWhole (readNat limit) := by
  intro v rest n left reads
  cases v with
  | null | bool | text | array | object => cases reads
  | number numeral =>
      simp only [Value.lexemes, List.singleton_append, readNat] at reads
      cases word : numeral.toWord? with
      | none =>
          rw [word] at reads
          cases reads
      | some value =>
          by_cases fits : value ≤ limit
          · simp only [word, if_pos fits] at reads
            cases reads
            rfl
          · simp only [word, if_neg fits] at reads
            cases reads

theorem takesWhole_readText : TakesWhole readText := by
  intro v rest s left reads
  cases v with
  | null | bool | number | array | object => cases reads
  | text content =>
      cases reads
      rfl

theorem takesWhole_restrict (codec : Codec α) (whole : TakesWhole codec.read)
    (toFun : α → Option β) (invFun : β → α) : TakesWhole (codec.restrict toFun invFun).read := by
  intro v rest b left reads
  simp only [Codec.restrict] at reads
  cases taken : codec.read (v.lexemes ++ rest) with
  | error fault =>
      simp only [taken] at reads
      cases reads
  | ok found =>
      rcases found with ⟨a, left'⟩
      cases isValue : toFun a with
      | none =>
          simp only [taken, isValue] at reads
          cases reads
      | some b' =>
          simp only [taken, isValue] at reads
          cases reads
          exact whole v rest a left taken

end Codecs

/-! ## Members -/

theorem exists_of_map_eq_ok {α β : Type} {f : α → β} {result : Except Fault α} {b : β}
    (mapped : result.map f = .ok b) : ∃ a, result = .ok a ∧ f a = b := by
  cases result with
  | error fault => cases mapped
  | ok a => exact ⟨a, rfl, Except.ok.inj mapped⟩

theorem readMember_takesWhole {key : String} {v : Value} {rest left : List Lexeme}
    {next : Draft fields} (whole : ∀ f ∈ fields, TakesWhole f.codec.read)
    (reads : d.readMember key fields (.colon :: (v.lexemes ++ rest)) = .ok (next, left)) :
    left = rest := by
  induction fields with
  | nil =>
      have skipped : Draft.readMember key [] d (.colon :: (v.lexemes ++ rest)) = .ok ((), rest) :=
        reads_skip v rest
      rw [skipped] at reads
      cases reads
      rfl
  | cons f fs ih =>
      rcases d with ⟨slot, others⟩
      rcases List.forall_mem_cons.1 whole with ⟨first, later⟩
      by_cases isKey : key = f.key
      · subst isKey
        rw [readMember_first] at reads
        cases slot with
        | some a => cases reads
        | none =>
            rcases exists_of_map_eq_ok reads with ⟨⟨a, left'⟩, taken, same⟩
            cases same
            exact first v rest a left taken
      · rw [readMember_later _ _ isKey] at reads
        rcases exists_of_map_eq_ok reads with ⟨⟨others', left'⟩, taken, same⟩
        cases same
        exact ih later taken

theorem readMember_refuses {key : String} {v : Value} (known : key ∈ fieldKeys fields)
    (refused : ∀ f ∈ fields, f.key = key → Refuses f.codec.read v) (rest : List Lexeme) :
    ∃ fault, d.readMember key fields (.colon :: (v.lexemes ++ rest)) = .error fault := by
  induction fields with
  | nil => cases known
  | cons f fs ih =>
      rcases d with ⟨slot, others⟩
      rcases List.forall_mem_cons.1 refused with ⟨first, later⟩
      by_cases isKey : key = f.key
      · subst isKey
        rw [readMember_first]
        cases slot with
        | some a => exact ⟨_, rfl⟩
        | none =>
            rcases first rfl rest with ⟨fault, refusal⟩
            rw [refusal]
            exact ⟨fault, rfl⟩
      · rw [readMember_later _ _ isKey]
        have isLater := (List.mem_cons.1 known).resolve_left isKey
        rcases ih (d := others) isLater later with ⟨fault, refusal⟩
        rw [refusal]
        exact ⟨fault, rfl⟩

/-- A list of members is refused when each way of reading its first one leads to a refusal. -/
theorem readMembers_refuses {first : Bool} {key : String} {lexemes start : List Lexeme}
    {draft : Draft fields} (found : nextKey first lexemes = .ok (some (key, start)))
    (goesWrong : ∀ next rest, draft.readMember key fields start = .ok (next, rest) →
      ∃ fault, readMembers fields next false rest = .error fault) :
    ∃ fault, readMembers fields draft first lexemes = .error fault := by
  rw [readMembers, found]
  cases read : draft.readMember key fields start with
  | error fault =>
      refine ⟨fault, ?_⟩
      simp only [read]
  | ok taken =>
      rcases taken with ⟨next, rest⟩
      by_cases shorter : rest.length < lexemes.length
      · simp only [read, dif_pos shorter]
        exact goesWrong next rest read
      · refine ⟨.malformed, ?_⟩
        simp only [read, dif_neg shorter]

section Refused

variable {m : String × Value} (whole : ∀ f ∈ fields, TakesWhole f.codec.read)
  (known : m.1 ∈ fieldKeys fields)
  (refused : ∀ f ∈ fields, f.key = m.1 → Refuses f.codec.read m.2)

include whole known refused

/-- It does not matter whether the member that is refused comes first. -/
theorem readMembers_refuses_of_mem (draft : Draft fields) {first : Bool} {other : String × Value}
    {lexemes rest : List Lexeme} (inObject : m ∈ other :: members)
    (found : nextKey first lexemes =
      .ok (some (other.1, .colon :: (other.2.lexemes ++ afterMember members rest))))
    (ofOthers : m ∈ members → ∀ next : Draft fields,
      ∃ fault, readMembers fields next false (afterMember members rest) = .error fault) :
    ∃ fault, readMembers fields draft first lexemes = .error fault := by
  refine readMembers_refuses found fun next left read => ?_
  -- Either the first member is the refused one, and is not read, or it is read as a whole and the
  -- others are refused.
  rcases List.mem_cons.1 inObject with rfl | isLater
  · rcases readMember_refuses (d := draft) known refused (afterMember members rest) with
      ⟨fault, refusal⟩
    rw [refusal] at read
    cases read
  · rw [readMember_takesWhole whole read]
    exact ofOthers isLater next

theorem readMembers_refuses_afterMember (inObject : m ∈ members) (draft : Draft fields)
    (rest : List Lexeme) :
    ∃ fault, readMembers fields draft false (afterMember members rest) = .error fault := by
  induction members generalizing draft with
  | nil => cases inObject
  | cons other members ih =>
      rw [afterMember_cons]
      exact readMembers_refuses_of_mem whole known refused draft inObject
        (nextKey_member other _).2 ih

/-- An object is refused as a record when one of its members is refused as the field that it is
meant for. -/
theorem refuses_object (inObject : m ∈ members) :
    Refuses (Record.read fields) (.object members) := by
  intro rest
  cases members with
  | nil => cases inObject
  | cons other members =>
      rcases readMembers_refuses_of_mem whole known refused (empty fields) inObject
          (nextKey_member other (afterMember members rest)).1 fun isLater next =>
            readMembers_refuses_afterMember whole known refused isLater next rest with
        ⟨fault, refusal⟩
      rw [lexemes_object_cons]
      refine ⟨fault, ?_⟩
      simp only [Record.read, refusal]

end Refused

/-- An array is refused as a record when its first element is refused as the first field. -/
theorem refuses_array {f : Field} {v : Value} (refused : Refuses f.codec.read v)
    (elements : List Value) : Refuses (Record.read (f :: fields)) (.array (v :: elements)) := by
  intro rest
  rcases refused ((elements.flatMap fun w => .comma :: w.lexemes) ++ .closeBracket :: rest) with
    ⟨fault, refusal⟩
  refine ⟨fault, ?_⟩
  rw [Value.lexemes, elementLexemes_cons, List.append_assoc, List.cons_append, List.append_assoc,
    List.singleton_append]
  simp only [Record.read, readFieldElements, nextElement_value, refusal]

end Json
end EditorAnalysis
