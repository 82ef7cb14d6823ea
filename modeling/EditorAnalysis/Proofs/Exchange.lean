import EditorAnalysis.Exchange
import EditorAnalysis.Proofs.Json.Refusal

/-!
# Values read back from their JSON forms

What is read from the JSON form of a value is the value itself, whichever text of that form it is
read from. A record is read from any object that has its members, in any order and among others,
and a configuration also from an object that leaves some of its settings out. A hint with a number
that is the number of no kind is refused.
-/

namespace EditorAnalysis
namespace Exchange

open Json

variable {α : Type} {codec : Codec α} {v : Value} {a : α}

/-! ## Texts -/

/-- Whether a value is read from every text that spells a JSON value. -/
def ReadFrom (codec : Codec α) (v : Value) (a : α) : Prop :=
  ∀ text, Spells text v → ofText codec text = .ok a

/-- Whether every text that spells a JSON value is refused. -/
def RefusedFrom (codec : Codec α) (v : Value) : Prop :=
  ∀ text, Spells text v → ∃ fault, ofText codec text = .error fault

/-- Whether reading gives a value back, from both ways of writing it and from every other text of
the same JSON value. -/
def ReadsBack (codec : Codec α) (a : α) : Prop :=
  ofText codec (toText codec a) = .ok a ∧ ofText codec (codec.write a).pretty = .ok a ∧
    ReadFrom codec (codec.write a) a

/-- Whether reading gives a record back, also from every object that has its members in any order
and others among them. -/
def ReadsBackRearranged (codec : Codec α) (given : List (String × Value)) (a : α) : Prop :=
  ReadsBack codec a ∧
    ∀ members, Arranges (given.map Prod.fst) given members → ReadFrom codec (.object members) a

theorem readFrom_of_reads (reads : Reads codec.read v a) : ReadFrom codec v a := by
  intro text spells
  have whole := reads []
  rw [List.append_nil] at whole
  rw [ofText, readWhole, spells, whole]

theorem refusedFrom_of_refuses (refuses : Refuses codec.read v) : RefusedFrom codec v := by
  intro text spells
  rcases refuses [] with ⟨fault, refusal⟩
  rw [List.append_nil] at refusal
  refine ⟨fault, ?_⟩
  rw [ofText, readWhole, spells, refusal]

theorem readsBack_of_reads (reads : Reads codec.read (codec.write a) a) : ReadsBack codec a :=
  ⟨readFrom_of_reads reads _ (spells_compact _), readFrom_of_reads reads _ (spells_pretty _),
    readFrom_of_reads reads⟩

/-- A record that corresponds to a value is read back as the value. -/
theorem readsBackRearranged (fields : List Field) {toFun : Record fields → α}
    {invFun : α → Record fields} (nodup : (fieldKeys fields).Nodup) (inverse : toFun (invFun a) = a)
    (readsBack : Record.ReadsBack fields (invFun a)) :
    ReadsBackRearranged ((Record.codec fields).convert toFun invFun)
      (Record.members fields (invFun a)) a := by
  have reads {members : List (String × Value)}
      (arranges : Arranges (fieldKeys fields) (Record.members fields (invFun a)) members) :
      Reads ((Record.codec fields).convert toFun invFun).read (.object members) a := by
    have converted := reads_convert (Record.codec fields) (reads_record nodup readsBack arranges)
      toFun invFun
    rwa [inverse] at converted
  refine ⟨readsBack_of_reads (reads (arranges_members _)), fun members arranges => ?_⟩
  rw [map_fst_members] at arranges
  exact readFrom_of_reads (reads arranges)

/-! ## Simple values -/

theorem reads_word {n : Nat} (fits : n ≤ maxWord) : Reads word.read (.ofNat n) n :=
  reads_readNat fits (Nat.lt_succ_of_le fits)

theorem code_le (kind : HintKind) : kind.code ≤ 3 := by
  cases kind <;> decide

theorem reads_hintKind (kind : HintKind) : Reads hintKind.read (hintKind.write kind) kind := by
  refine reads_restrict (reads_readNat ?_ ?_) kind.ofCode?_code _
  · exact Nat.le_trans (code_le kind) (by decide)
  · exact Nat.lt_of_le_of_lt (code_le kind) (by decide)

theorem reads_category (c : Category) : Reads category.read (category.write c) c :=
  reads_namedCodec c.ofName?_name

theorem reads_charClass (c : CharClass) : Reads charClass.read (charClass.write c) c := by
  have reads : Reads (Codec.nat 65535).read (.ofNat c.bits.toNat) c.bits.toNat :=
    reads_readNat (Nat.le_of_lt_succ c.bits.toNat_lt) (Nat.lt_trans c.bits.toNat_lt (by decide))
  have converted := reads_convert (.nat 65535) reads (fun n => (⟨UInt16.ofNat n⟩ : CharClass))
    fun c => c.bits.toNat
  rwa [UInt16.ofNat_toNat] at converted

theorem reads_sessionId (id : SessionId) : Reads sessionId.read (sessionId.write id) id := by
  have reads : Reads word.read (.ofNat id.number.toNat) id.number.toNat :=
    reads_word (Nat.le_of_lt_succ id.number.toNat_lt)
  have converted := reads_convert word reads (fun n => (⟨UInt64.ofNat n⟩ : SessionId))
    fun id => id.number.toNat
  rwa [UInt64.ofNat_toNat] at converted

theorem reads_texts (l : List String) :
    Reads (Codec.list .text).read ((Codec.list .text).write l) l :=
  reads_readArray fun s _ => reads_readText s

/-! ## Records -/

theorem hint_readsBack (h : Hint) (line : h.line ≤ maxWord) :
    ReadsBackRearranged hint
      [("kind", .ofNat h.kind.code), ("line", .ofNat h.line), ("name", .text h.name)] h :=
  readsBackRearranged hintFields (by decide) rfl
    ⟨reads_hintKind h.kind, reads_word line, reads_readText h.name, trivial⟩

theorem diagnostic_readsBack (d : Diagnostic) (line : d.line ≤ maxWord) (start : d.start ≤ maxWord)
    (length : d.length ≤ maxWord) :
    ReadsBackRearranged diagnostic
      [("origin", .text d.origin), ("line", .ofNat d.line), ("start", .ofNat d.start),
        ("length", .ofNat d.length), ("message", .text d.message)] d :=
  readsBackRearranged diagnosticFields (by decide) rfl
    ⟨reads_readText d.origin, reads_word line, reads_word start, reads_word length,
      reads_readText d.message, trivial⟩

theorem globalNames_readsBack (names : GlobalNames) :
    ReadsBackRearranged globalNames
      [("modules", .array (names.modules.map .text)),
        ("functions", .array (names.functions.map .text)),
        ("classes", .array (names.classes.map .text))] names :=
  readsBackRearranged globalNamesFields (by decide) rfl
    ⟨reads_texts names.modules, reads_texts names.functions, reads_texts names.classes, trivial⟩

theorem lineRank_readsBack (rank : LineRank) (enter : rank.enter ≤ maxWord)
    (leave : rank.leave ≤ maxWord) :
    ReadsBackRearranged lineRank [("enter", .ofNat rank.enter), ("leave", .ofNat rank.leave)]
      rank :=
  readsBackRearranged lineRankFields (by decide) rfl
    ⟨reads_word enter, reads_word leave, trivial⟩

theorem config_readsBack (c : Config) (maxLineLength : c.maxLineLength ≤ maxWord) :
    ReadsBackRearranged config
      [("style_check", .bool c.styleCheck), ("max_line_length", .ofNat c.maxLineLength)] c :=
  readsBackRearranged configFields (by decide) rfl
    ⟨reads_readBool c.styleCheck, reads_word maxLineLength, trivial⟩

/-- The members that give some of the settings of a configuration. -/
def settings (styleCheck : Option Bool) (maxLineLength : Option Nat) : List (String × Value) :=
  (styleCheck.map fun b => ("style_check", .bool b)).toList ++
    (maxLineLength.map fun n => ("max_line_length", .ofNat n)).toList

/-- Settings that are left out have their defaults. -/
theorem config_readFrom_settings {styleCheck : Option Bool} {maxLineLength : Option Nat}
    (fits : ∀ n, maxLineLength = some n → n ≤ maxWord) {members : List (String × Value)}
    (arranges : Arranges ["style_check", "max_line_length"] (settings styleCheck maxLineLength)
      members) :
    ReadFrom config (.object members)
      ⟨styleCheck.getD Config.default.styleCheck,
        maxLineLength.getD Config.default.maxLineLength⟩ := by
  -- The object gives a draft that need not be full, and what it lacks falls back.
  let draft : Draft configFields := (styleCheck, maxLineLength, ())
  have readsBack : Draft.ReadsBack configFields draft :=
    ⟨fun b _ => reads_readBool b, fun n given => reads_word (fits n given), trivial⟩
  have held : Draft.members configFields draft = settings styleCheck maxLineLength := by
    cases styleCheck <;> cases maxLineLength <;> rfl
  have finishes : Draft.finish configFields draft =
      some (styleCheck.getD Config.default.styleCheck,
        maxLineLength.getD Config.default.maxLineLength, ()) := by
    cases styleCheck <;> cases maxLineLength <;> rfl
  have reads := reads_object (by decide) readsBack finishes (held ▸ arranges)
  exact readFrom_of_reads (reads_convert (Record.codec configFields) reads _ _)

/-! ## Numbers of no kind -/

theorem refuses_hintKind {n : Numeral} (ofNone : ∀ k ≤ 3, n ≠ .ofNat k) :
    Refuses hintKind.read (.number n) := by
  intro rest
  simp only [hintKind, Codec.restrict, Codec.nat, Value.lexemes, List.singleton_append, readNat]
  cases word : n.toWord? with
  | none => exact ⟨_, rfl⟩
  | some code =>
      have notKind : HintKind.ofCode? code = none := by
        cases ofKind : HintKind.ofCode? code with
        | none => rfl
        | some kind =>
            have small : code ≤ 3 := HintKind.ofCode?_eq_some.1 ofKind ▸ code_le kind
            exact absurd (Numeral.eq_ofNat_of_toWord? word) (ofNone code small)
      -- A greater number than a byte is refused before it is looked up.
      by_cases fits : code ≤ 255
      · simp only [if_pos fits, notKind]
        exact ⟨_, rfl⟩
      · simp only [if_neg fits]
        exact ⟨_, rfl⟩

theorem takesWhole_hintFields : ∀ f ∈ hintFields, TakesWhole f.codec.read := by
  simp only [hintFields, List.forall_mem_cons]
  exact ⟨takesWhole_restrict (.nat 255) (takesWhole_readNat 255) _ _,
    takesWhole_readNat maxWord, takesWhole_readText, fun f none_ => absurd none_ List.not_mem_nil⟩

/-- A hint is refused for the number of its kind wherever the member with the number stands, and
whatever else the object holds. -/
theorem refuses_hint_object {n : Numeral} (ofNone : ∀ k ≤ 3, n ≠ .ofNat k)
    {members : List (String × Value)} (inObject : ("kind", .number n) ∈ members) :
    Refuses hint.read (.object members) := by
  have refused : ∀ f ∈ hintFields, f.key = "kind" → Refuses f.codec.read (.number n) := by
    simp only [hintFields, List.forall_mem_cons]
    exact ⟨fun _ => refuses_hintKind ofNone, fun other => absurd other (by decide),
      fun other => absurd other (by decide), fun f none_ => absurd none_ List.not_mem_nil⟩
  have known : "kind" ∈ fieldKeys hintFields := by decide
  exact refuses_convert (Record.codec hintFields)
    (refuses_object takesWhole_hintFields known refused inObject) _ _

theorem refuses_hint_array {n : Numeral} (ofNone : ∀ k ≤ 3, n ≠ .ofNat k)
    (elements : List Value) : Refuses hint.read (.array (.number n :: elements)) := by
  have first : Refuses (required "kind" hintKind).codec.read (.number n) := refuses_hintKind ofNone
  exact refuses_convert (Record.codec hintFields) (refuses_array first elements) _ _

/-! ## All values -/

/-- Every value is read back from each text of its JSON form. So is every record, with its members
in any order and others among them, and a configuration has the defaults of the settings that its
members leave out. A hint whose kind is the number of no kind is refused. -/
theorem values_read_back :
    (∀ kind, ReadsBack hintKind kind) ∧ (∀ c, ReadsBack category c) ∧
      (∀ c, ReadsBack charClass c) ∧ (∀ id, ReadsBack sessionId id) ∧
      (∀ h : Hint, h.line ≤ maxWord →
        ReadsBackRearranged hint
          [("kind", .ofNat h.kind.code), ("line", .ofNat h.line), ("name", .text h.name)] h) ∧
      (∀ d : Diagnostic, d.line ≤ maxWord → d.start ≤ maxWord → d.length ≤ maxWord →
        ReadsBackRearranged diagnostic
          [("origin", .text d.origin), ("line", .ofNat d.line), ("start", .ofNat d.start),
            ("length", .ofNat d.length), ("message", .text d.message)] d) ∧
      (∀ names : GlobalNames,
        ReadsBackRearranged globalNames
          [("modules", .array (names.modules.map .text)),
            ("functions", .array (names.functions.map .text)),
            ("classes", .array (names.classes.map .text))] names) ∧
      (∀ rank : LineRank, rank.enter ≤ maxWord → rank.leave ≤ maxWord →
        ReadsBackRearranged lineRank
          [("enter", .ofNat rank.enter), ("leave", .ofNat rank.leave)] rank) ∧
      (∀ c : Config, c.maxLineLength ≤ maxWord →
        ReadsBackRearranged config
          [("style_check", .bool c.styleCheck), ("max_line_length", .ofNat c.maxLineLength)] c) ∧
      (∀ (styleCheck : Option Bool) (maxLineLength : Option Nat),
        (∀ n, maxLineLength = some n → n ≤ maxWord) →
        ∀ members, Arranges ["style_check", "max_line_length"]
            (settings styleCheck maxLineLength) members →
          ReadFrom config (.object members)
            ⟨styleCheck.getD Config.default.styleCheck,
              maxLineLength.getD Config.default.maxLineLength⟩) ∧
      (∀ n : Numeral, (∀ k ≤ 3, n ≠ .ofNat k) → RefusedFrom hintKind (.number n) ∧
        (∀ members, ("kind", .number n) ∈ members → RefusedFrom hint (.object members)) ∧
          ∀ elements, RefusedFrom hint (.array (.number n :: elements))) := by
  refine ⟨fun kind => readsBack_of_reads (reads_hintKind kind),
    fun c => readsBack_of_reads (reads_category c),
    fun c => readsBack_of_reads (reads_charClass c),
    fun id => readsBack_of_reads (reads_sessionId id), hint_readsBack, diagnostic_readsBack,
    globalNames_readsBack, lineRank_readsBack, config_readsBack, ?_,
    fun n ofNone => ⟨refusedFrom_of_refuses (refuses_hintKind ofNone), ?_, ?_⟩⟩
  · intro styleCheck maxLineLength fits members arranges
    exact config_readFrom_settings fits arranges
  · intro members inObject
    exact refusedFrom_of_refuses (refuses_hint_object ofNone inObject)
  · intro elements
    exact refusedFrom_of_refuses (refuses_hint_array ofNone elements)

/-- The greatest numbers, texts with escapes, members the other way round around one that no field
has, a setting left out, and the first number that is the number of no kind. -/
theorem values_read_back_greatest :
    let h : Hint := ⟨.function, maxWord, "\"é\\\n😀\""⟩
    let d : Diagnostic := ⟨"tokenizer", maxWord, maxWord, maxWord, "\x01"⟩
    h.line ≤ maxWord ∧
      ofText hint (toText hint h) = .ok h ∧
      ofText hint (Value.object [("name", .text h.name), ("more", .array [.null, .object []]),
        ("line", .ofNat h.line), ("kind", .ofNat 2)]).compact = .ok h ∧
      ofText diagnostic (toText diagnostic d) = .ok d ∧
      ofText lineRank (toText lineRank ⟨0, maxWord⟩) = .ok ⟨0, maxWord⟩ ∧
      ofText config (Value.object [("more", .null), ("max_line_length", .ofNat 100)]).compact =
        .ok ⟨false, 100⟩ ∧
      ∃ fault, ofText hint (Value.object [("kind", .ofNat 4), ("line", .ofNat 0),
        ("name", .text "")]).compact = .error fault := by
  intro h d
  rcases values_read_back with
    ⟨-, -, -, -, ofHint, ofDiagnostic, -, ofRank, -, ofSettings, ofNoKind⟩
  refine ⟨Nat.le_refl _, (ofHint h (Nat.le_refl _)).1.1,
    (ofHint h (Nat.le_refl _)).2 _ ?_ _ (spells_compact _),
    (ofDiagnostic d (Nat.le_refl _) (Nat.le_refl _) (Nat.le_refl _)).1.1,
    (ofRank ⟨0, maxWord⟩ (Nat.zero_le _) (Nat.le_refl _)).1.1,
    ofSettings none (some 100) ?_ _ ?_ _ (spells_compact _),
    (ofNoKind (.ofNat 4) ?_).2.1 _ List.mem_cons_self _ (spells_compact _)⟩
  · -- Of the members that are left, the one that gives the kind stands last.
    exact (List.reverse_perm _).symm
  · intro n given
    cases given
    decide
  · exact List.Perm.refl _
  · decide

end Exchange
end EditorAnalysis
