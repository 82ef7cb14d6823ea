import EditorAnalysis.Json.Record
import EditorAnalysis.Proofs.Json.Reader

/-!
# Reading records

An object is read as a record whatever the order of its members and whatever stands among them
under other keys. In front of each member the draft of the record lacks just the fields whose
members are still to come, so at the end it holds all that the object gives, and the fields that
no member gives fall back.
-/

namespace EditorAnalysis
namespace Json

/-! ## Codecs -/

section Codecs

variable {α β : Type}

theorem reads_convert (codec : Codec α) {v : Value} {a : α} (reads : Reads codec.read v a)
    (toFun : α → β) (invFun : β → α) : Reads (codec.convert toFun invFun).read v (toFun a) := by
  intro rest
  simp only [Codec.convert, reads rest]
  rfl

theorem reads_restrict {codec : Codec α} {v : Value} {a : α} {toFun : α → Option β} {b : β}
    (reads : Reads codec.read v a) (isValue : toFun a = some b) (invFun : β → α) :
    Reads (codec.restrict toFun invFun).read v b := by
  intro rest
  simp only [Codec.restrict, reads rest, isValue]

theorem reads_namedCodec {name : α → String} {ofName? : String → Option α} {a : α}
    (named : ofName? (name a) = some a) :
    Reads (namedCodec name ofName?).read (.text (name a)) a := by
  intro rest
  simp only [namedCodec, Value.lexemes, List.singleton_append, readName, readText, named]

end Codecs

/-! ## What an object gives -/

/-- Whether the members of an object are the given ones, in any order, and others among them, whose
keys are none of the keys. -/
def Arranges (keys : List String) (given members : List (String × Value)) : Prop :=
  (members.filter fun m => m.1 ∈ keys).Perm given

def fieldKeys (fields : List Field) : List String :=
  fields.map Field.key

/-- Whether each field of a record is read back from what it is written as. -/
def Record.ReadsBack : (fields : List Field) → Record fields → Prop
  | [], () => True
  | f :: fs, (a, others) => Reads f.codec.read (f.codec.write a) a ∧ Record.ReadsBack fs others

namespace Draft

/-- The members that give the fields that a draft holds. -/
def members : (fields : List Field) → Draft fields → List (String × Value)
  | [], () => []
  | f :: fs, (some a, others) => (f.key, f.codec.write a) :: members fs others
  | _ :: fs, (none, others) => members fs others

/-- Whether what a draft holds is read back from what it is written as. -/
def ReadsBack : (fields : List Field) → Draft fields → Prop
  | [], () => True
  | f :: fs, (slot, others) =>
    (∀ a, slot = some a → Reads f.codec.read (f.codec.write a) a) ∧ ReadsBack fs others

/-- The draft without the fields that have certain keys. -/
def without : (fields : List Field) → Draft fields → List String → Draft fields
  | [], (), _ => ()
  | f :: fs, (slot, others), keys =>
    (if f.key ∈ keys then none else slot, without fs others keys)

/-- The draft that holds every field of a record. -/
def ofRecord : (fields : List Field) → Record fields → Draft fields
  | [], () => ()
  | _ :: fs, (a, others) => (some a, ofRecord fs others)

variable {fields : List Field}

theorem members_sublist (d : Draft fields) :
    ((members fields d).map Prod.fst).Sublist (fieldKeys fields) := by
  induction fields with
  | nil => exact .slnil
  | cons f fs ih =>
      rcases d with ⟨_ | a, others⟩
      · exact (ih others).cons _
      · exact (ih others).cons_cons _

theorem members_ofRecord (record : Record fields) :
    members fields (ofRecord fields record) = Record.members fields record := by
  induction fields with
  | nil => rfl
  | cons f fs ih => exact congrArg (_ :: ·) (ih record.2)

theorem finish_ofRecord (record : Record fields) :
    finish fields (ofRecord fields record) = some record := by
  induction fields with
  | nil => rfl
  | cons f fs ih =>
      rcases record with ⟨a, others⟩
      simp only [ofRecord, finish, ih others]
      rfl

theorem readsBack_ofRecord {record : Record fields} (readsBack : Record.ReadsBack fields record) :
    ReadsBack fields (ofRecord fields record) := by
  induction fields with
  | nil => trivial
  | cons f fs ih =>
      rcases readsBack with ⟨first, later⟩
      refine ⟨fun a same => ?_, ih later⟩
      rw [← Option.some.inj same]
      exact first

theorem without_nil (d : Draft fields) : without fields d [] = d := by
  induction fields with
  | nil => rfl
  | cons f fs ih =>
      rcases d with ⟨slot, others⟩
      rw [without, ih others, if_neg List.not_mem_nil]

/-- A key that no field has takes nothing away. -/
theorem without_cons_of_not_mem {key : String} {keys : List String} (d : Draft fields)
    (unknown : key ∉ fieldKeys fields) :
    without fields d (key :: keys) = without fields d keys := by
  induction fields with
  | nil => rfl
  | cons f fs ih =>
      rcases d with ⟨slot, others⟩
      have notFirst : f.key ≠ key := fun same => unknown (same ▸ List.mem_cons_self)
      have notLater : key ∉ fieldKeys fs := fun later => unknown (List.mem_cons_of_mem _ later)
      simp only [without, List.mem_cons, notFirst, false_or, ih others notLater]
      rfl

/-- Without all that it holds a draft is empty. -/
theorem without_eq_empty {keys : List String} (d : Draft fields)
    (all : ∀ m ∈ members fields d, m.1 ∈ keys) : without fields d keys = empty fields := by
  induction fields with
  | nil => rfl
  | cons f fs ih =>
      rcases d with ⟨_ | a, others⟩
      · rw [without, ite_self, ih others all]
        rfl
      · rcases List.forall_mem_cons.1 all with ⟨ofFirst, ofOthers⟩
        rw [without, if_pos ofFirst, ih others ofOthers]
        rfl

theorem readMember_first {f : Field} {fs : List Field} (slot : Option f.Carrier)
    (others : Draft fs) (rest : List Lexeme) :
    readMember f.key (f :: fs) (slot, others) (.colon :: rest) =
      match slot with
      | some _ => .error .mismatched
      | none => (f.codec.read rest).map fun (a, rest) => ((some a, others), rest) :=
  if_pos rfl

theorem readMember_later {key : String} {f : Field} {fs : List Field} (slot : Option f.Carrier)
    (others : Draft fs) {lexemes : List Lexeme} (notFirst : key ≠ f.key) :
    readMember key (f :: fs) (slot, others) lexemes =
      (readMember key fs others lexemes).map fun (others, rest) => ((slot, others), rest) :=
  if_neg notFirst

/-- A member gives a field that no other member still to come gives, or it is skipped. -/
theorem readMember_without {key : String} {keys : List String} {v : Value} {d : Draft fields}
    (nodup : (fieldKeys fields).Nodup) (readsBack : ReadsBack fields d)
    (gives : key ∈ fieldKeys fields → (key, v) ∈ members fields d ∧ key ∉ keys)
    (rest : List Lexeme) :
    readMember key fields (without fields d (key :: keys)) (.colon :: (v.lexemes ++ rest)) =
      .ok (without fields d keys, rest) := by
  induction fields with
  | nil => exact reads_skip v rest
  | cons f fs ih =>
      rcases d with ⟨slot, others⟩
      rcases readsBack with ⟨first, later⟩
      rcases List.nodup_cons.1 nodup with ⟨notLater, nodupLater⟩
      by_cases isKey : key = f.key
      · subst isKey
        rcases gives List.mem_cons_self with ⟨isGiven, notAgain⟩
        -- No other field has the key, so it is this one that the member gives.
        have notOther : (f.key, v) ∉ members fs others := fun other =>
          notLater ((members_sublist others).subset (List.mem_map_of_mem other))
        cases slot with
        | none => exact absurd isGiven notOther
        | some a =>
            rcases List.mem_cons.1 isGiven with same | other
            · have isWritten : v = f.codec.write a := congrArg Prod.snd same
              subst isWritten
              rw [without, without, if_pos List.mem_cons_self, if_neg notAgain, readMember_first,
                without_cons_of_not_mem others notLater]
              simp only [first a rfl rest, Except.map]
            · exact absurd other notOther
      · -- The member passes this field by, and what it gives is held by a later one.
        have ofOthers := ih nodupLater later fun isLater => by
          rcases gives (List.mem_cons_of_mem _ isLater) with ⟨isGiven, notAgain⟩
          refine ⟨?_, notAgain⟩
          cases slot with
          | none => exact isGiven
          | some a =>
              rcases List.mem_cons.1 isGiven with same | other
              · exact absurd (congrArg Prod.fst same) isKey
              · exact other
        have sameSlot : f.key ∈ key :: keys ↔ f.key ∈ keys := by
          rw [List.mem_cons, or_iff_right fun same => isKey same.symm]
        rw [without, without, readMember_later _ _ isKey, ofOthers]
        simp only [Except.map, sameSlot]

end Draft

open Draft

variable {fields : List Field} {d : Draft fields} {members : List (String × Value)}

/-! ## Reading the members one by one -/

/-- What stands behind a member of an object: the other members, each behind a comma, and the end
of the object. -/
def afterMember (members : List (String × Value)) (rest : List Lexeme) : List Lexeme :=
  (members.flatMap fun m => .comma :: memberPart m) ++ .closeBrace :: rest

theorem lexemes_object_cons (m : String × Value) (members : List (String × Value))
    (rest : List Lexeme) :
    (Value.object (m :: members)).lexemes ++ rest =
      .openBrace :: (memberPart m ++ afterMember members rest) := by
  simp only [Value.lexemes, memberLexemes_cons, afterMember, List.cons_append, List.append_assoc,
    List.nil_append]

theorem afterMember_cons (m : String × Value) (members : List (String × Value))
    (rest : List Lexeme) :
    afterMember (m :: members) rest = .comma :: (memberPart m ++ afterMember members rest) := by
  simp only [afterMember, List.flatMap_cons, List.cons_append, List.append_assoc]

theorem nextKey_member (m : String × Value) (rest : List Lexeme) :
    nextKey true (memberPart m ++ rest) = .ok (some (m.1, .colon :: (m.2.lexemes ++ rest))) ∧
      nextKey false (.comma :: (memberPart m ++ rest)) =
        .ok (some (m.1, .colon :: (m.2.lexemes ++ rest))) :=
  ⟨rfl, rfl⟩

theorem readMembers_step {first : Bool} {key : String} {lexemes start rest : List Lexeme}
    {draft next : Draft fields} (found : nextKey first lexemes = .ok (some (key, start)))
    (reads : draft.readMember key fields start = .ok (next, rest))
    (shorter : rest.length < lexemes.length) :
    readMembers fields draft first lexemes = readMembers fields next false rest := by
  rw [readMembers, found]
  simp only [reads, dif_pos shorter]

/-- Whether the members of an object give fields that a draft holds, each field at most once. -/
structure Gives (members : List (String × Value)) (d : Draft fields) : Prop where
  held : ∀ m ∈ members, m.1 ∈ fieldKeys fields → m ∈ Draft.members fields d
  once : members.Pairwise fun m later => m.1 ∈ fieldKeys fields → later.1 ≠ m.1

theorem Gives.of_cons {m : String × Value} (gives : Gives (m :: members) d) :
    (m.1 ∈ fieldKeys fields → m ∈ Draft.members fields d ∧ m.1 ∉ members.map Prod.fst) ∧
      Gives members d := by
  rcases List.forall_mem_cons.1 gives.held with ⟨ofFirst, ofOthers⟩
  rcases List.pairwise_cons.1 gives.once with ⟨firstOnce, othersOnce⟩
  refine ⟨fun known => ⟨ofFirst known, fun again => ?_⟩, ofOthers, othersOnce⟩
  rcases List.mem_map.1 again with ⟨later, isLater, same⟩
  exact firstOnce later isLater known same

/-- An object with the members that a draft gives, in any order and among others, gives each of
them once. -/
theorem Arranges.gives (nodup : (fieldKeys fields).Nodup)
    (arranges : Arranges (fieldKeys fields) (Draft.members fields d) members) :
    Gives members d := by
  constructor
  · intro m inObject known
    exact arranges.subset (List.mem_filter.2 ⟨inObject, decide_eq_true known⟩)
  · have distinct : ((members.filter fun m => m.1 ∈ fieldKeys fields).map Prod.fst).Nodup :=
      (arranges.map Prod.fst).nodup_iff.2 ((members_sublist d).nodup nodup)
    refine (List.pairwise_filter.1 (List.pairwise_map.1 distinct)).imp ?_
    intro m later differ known same
    exact differ (decide_eq_true known) (decide_eq_true (same ▸ known)) same.symm

theorem Arranges.forall_held
    (arranges : Arranges (fieldKeys fields) (Draft.members fields d) members) :
    ∀ m ∈ Draft.members fields d, m.1 ∈ members.map Prod.fst := by
  intro m held
  have inObject := (List.mem_filter.1 (arranges.symm.subset held)).1
  exact List.mem_map_of_mem inObject

/-- Behind a member the draft fills up with the fields of the members that follow. -/
theorem readMembers_afterMember (nodup : (fieldKeys fields).Nodup) (readsBack : ReadsBack fields d)
    (gives : Gives members d) (rest : List Lexeme) :
    readMembers fields (without fields d (members.map Prod.fst)) false (afterMember members rest) =
      .ok (d, rest) := by
  induction members with
  | nil =>
      rw [List.map_nil, without_nil, readMembers]
      rfl
  | cons m members ih =>
      rcases gives.of_cons with ⟨ofFirst, ofOthers⟩
      have shorter : (afterMember members rest).length <
          (.comma :: (memberPart m ++ afterMember members rest) : List Lexeme).length := by
        simp only [List.length_cons, List.length_append]
        omega
      rw [afterMember_cons, List.map_cons]
      calc readMembers fields (without fields d (m.1 :: members.map Prod.fst)) false
            (.comma :: (memberPart m ++ afterMember members rest))
          = readMembers fields (without fields d (members.map Prod.fst)) false
              (afterMember members rest) :=
            readMembers_step (nextKey_member m _).2 (readMember_without nodup readsBack ofFirst _)
              shorter
        _ = .ok (d, rest) := ih ofOthers

theorem read_openBrace {record : Record fields} {lexemes rest : List Lexeme}
    (read : readMembers fields (empty fields) true lexemes = .ok (d, rest))
    (finishes : finish fields d = some record) :
    Record.read fields (.openBrace :: lexemes) = .ok (record, rest) := by
  simp only [Record.read, read, finishes]

/-- An object is read as the record that a draft becomes when it has the members that give what
the draft holds, in any order and among others. -/
theorem reads_object {record : Record fields} (nodup : (fieldKeys fields).Nodup)
    (readsBack : ReadsBack fields d) (finishes : finish fields d = some record)
    (arranges : Arranges (fieldKeys fields) (Draft.members fields d) members) :
    Reads (Record.read fields) (.object members) record := by
  intro rest
  have gives := arranges.gives nodup
  -- Before the first member nothing has been read.
  have start := without_eq_empty d arranges.forall_held
  cases members with
  | nil =>
      refine read_openBrace (d := d) ?_ finishes
      rw [← start, List.map_nil, without_nil, readMembers]
      rfl
  | cons m members =>
      rcases gives.of_cons with ⟨ofFirst, ofOthers⟩
      have shorter : (afterMember members rest).length <
          (memberPart m ++ afterMember members rest).length := by
        simp only [memberPart, List.length_cons, List.length_append]
        omega
      have filled : readMembers fields (empty fields) true
          (memberPart m ++ afterMember members rest) = .ok (d, rest) := by
        rw [← start, List.map_cons]
        calc readMembers fields (without fields d (m.1 :: members.map Prod.fst)) true
              (memberPart m ++ afterMember members rest)
            = readMembers fields (without fields d (members.map Prod.fst)) false
                (afterMember members rest) :=
              readMembers_step (nextKey_member m _).1
                (readMember_without nodup readsBack ofFirst _) shorter
          _ = .ok (d, rest) := readMembers_afterMember nodup readsBack ofOthers rest
      rw [lexemes_object_cons]
      exact read_openBrace filled finishes

theorem map_fst_members (record : Record fields) :
    (Record.members fields record).map Prod.fst = fieldKeys fields := by
  induction fields with
  | nil => rfl
  | cons f fs ih => exact congrArg (f.key :: ·) (ih record.2)

/-- The object that a record is written as has just the members that give the record. -/
theorem arranges_members (record : Record fields) :
    Arranges (fieldKeys fields) (Record.members fields record) (Record.members fields record) := by
  have known : ∀ m ∈ Record.members fields record, m.1 ∈ fieldKeys fields := by
    intro m given
    rw [← map_fst_members record]
    exact List.mem_map_of_mem given
  rw [Arranges, List.filter_eq_self.2 fun m given => decide_eq_true (known m given)]

/-- A record that is written is read from any object with its members, in any order and among
others. -/
theorem reads_record {record : Record fields} (nodup : (fieldKeys fields).Nodup)
    (readsBack : Record.ReadsBack fields record)
    (arranges : Arranges (fieldKeys fields) (Record.members fields record) members) :
    Reads (Record.read fields) (.object members) record := by
  rw [← members_ofRecord] at arranges
  exact reads_object nodup (readsBack_ofRecord readsBack) (finish_ofRecord record) arranges

end Json
end EditorAnalysis
