import EditorAnalysis.Proofs.Checker
import EditorAnalysis.Replay
import Mathlib.Data.List.Forall2

/-!
# Rounds of checks

A list of checkers is asked about one text after the other, and each of them keeps a state from one
round to the next. It does so as if it were alone: a checker that is left out or fails contributes
nothing, and without it the others report the same and are in the same states. A checker gets the
calls of the rounds in which it is not left out, and no others.
-/

namespace EditorAnalysis
namespace Checker

variable {σ : Type} [Checker σ] {text : String} {context : CheckContext} {s : σ}
  {checkers : List σ} {keep : Nat → Bool}

/-! ## Outcomes -/

/-- What comes of a checker when its list has a text to check: a list of diagnostics or none, and
its next state. -/
inductive ComesOut (text : String) (context : CheckContext) :
    σ → Option (List Diagnostic) × σ → Prop where
  | leftOut {s : σ} (style : kind s = .style) (off : context.config.styleCheck = false) :
      ComesOut text context s (none, s)
  | failed {s next : σ} {e : CheckerError}
      (asked : kind s = .style → context.config.styleCheck = true)
      (failure : report (configure s text context) = (.error e, next)) :
      ComesOut text context s (none, next)
  | reported {s next : σ} {list : List Diagnostic}
      (asked : kind s = .style → context.config.styleCheck = true)
      (success : report (configure s text context) = (.ok list, next)) :
      ComesOut text context s (some (list.map ({ · with origin := name next })), next)

theorem isSkipped_iff :
    isSkipped s context = true ↔ kind s = .style ∧ context.config.styleCheck = false := by
  simp [isSkipped]

theorem isSkipped_eq_false_iff :
    isSkipped s context = false ↔ (kind s = .style → context.config.styleCheck = true) := by
  simp [isSkipped]

theorem comesOut_visit (text : String) (context : CheckContext) (s : σ) :
    ComesOut text context s (visit text context s) := by
  rw [visit]
  split
  · next skipped => exact .leftOut (isSkipped_iff.1 skipped).1 (isSkipped_iff.1 skipped).2
  · next notSkipped =>
      have asked := isSkipped_eq_false_iff.1 (Bool.eq_false_iff.2 notSkipped)
      rw [check]
      split
      · next success => exact .reported asked success
      · next failure => exact .failed asked failure

/-- Nothing else can come of a checker. -/
theorem ComesOut.visit_eq {outcome : Option (List Diagnostic) × σ}
    (out : ComesOut text context s outcome) : visit text context s = outcome := by
  cases out with
  | leftOut style off => simp [visit, isSkipped_iff.2 ⟨style, off⟩]
  | failed asked failure => simp [visit, isSkipped_eq_false_iff.2 asked, check, failure]
  | reported asked success => simp [visit, isSkipped_eq_false_iff.2 asked, check, success]

/-! ## Parts of a list -/

/-- The members of a list at the places that are kept. -/
def keepAt {α : Type} (keep : Nat → Bool) : List α → List α
  | [] => []
  | a :: rest =>
    let others := keepAt (fun place => keep (place + 1)) rest
    if keep 0 then a :: others else others

theorem map_keepAt {α β : Type} (f : α → β) (keep : Nat → Bool) (list : List α) :
    (keepAt keep list).map f = keepAt keep (list.map f) := by
  induction list generalizing keep with
  | nil => rfl
  | cons a rest ih =>
      rw [List.map_cons, keepAt, keepAt, ← ih]
      split <;> rfl

theorem filterMap_keepAt {α β : Type} {f : α → Option β} {list : List α}
    (dropped : ∀ place a, list[place]? = some a → keep place = false → f a = none) :
    (keepAt keep list).filterMap f = list.filterMap f := by
  induction list generalizing keep with
  | nil => rfl
  | cons a rest ih =>
      have others := ih fun place b there => dropped (place + 1) b there
      rw [keepAt]
      cases first : keep 0 with
      | true => simp [List.filterMap_cons, others]
      | false => simp [others, dropped 0 a rfl first]

/-- Checkers that are left out or fail can be taken away. -/
theorem checkAll_keepAt (silent : ∀ place s, checkers[place]? = some s → keep place = false →
      ∃ next, ComesOut text context s (none, next)) :
    checkAll text context (keepAt keep checkers) =
      ((checkAll text context checkers).1, keepAt keep (checkAll text context checkers).2) := by
  have dropped : ∀ place s, checkers[place]? = some s → keep place = false →
      (visit text context s).1 = none := by
    intro place s there away
    rcases silent place s there away with ⟨next, out⟩
    rw [out.visit_eq]
  rw [checkAll_eq, checkAll_eq, filterMap_keepAt dropped, map_keepAt]

/-! ## Rounds -/

/-- A text to check and what the checkers are told besides. -/
structure Round where
  text : String
  context : CheckContext

/-- Has the checkers check one text after the other: the lists of each round, and the checkers
after the last one. -/
def checkRounds : List Round → List σ → List (List (List Diagnostic)) × List σ
  | [], checkers => ([], checkers)
  | round :: rest, checkers =>
    let (lists, next) := checkAll round.text round.context checkers
    let (later, last) := checkRounds rest next
    (lists :: later, last)

/-- Whether a checker is left out or fails in every round. -/
inductive Silent : List Round → σ → Prop where
  | nil (s : σ) : Silent [] s
  | cons {round : Round} {rest : List Round} {s next : σ}
      (out : ComesOut round.text round.context s (none, next)) (later : Silent rest next) :
      Silent (round :: rest) s

/-- Checkers that are silent in all rounds can be taken away. -/
theorem checkRounds_keepAt {rounds : List Round}
    (silent : ∀ place s, checkers[place]? = some s → keep place = false → Silent rounds s) :
    checkRounds rounds (keepAt keep checkers) =
      ((checkRounds rounds checkers).1, keepAt keep (checkRounds rounds checkers).2) := by
  induction rounds generalizing checkers with
  | nil => rfl
  | cons round rest ih =>
      have now : ∀ place s, checkers[place]? = some s → keep place = false →
          ∃ next, ComesOut round.text round.context s (none, next) := by
        intro place s there away
        cases silent place s there away with
        | cons out later => exact ⟨_, out⟩
      have later : ∀ place t, (checkAll round.text round.context checkers).2[place]? = some t →
          keep place = false → Silent rest t := by
        intro place t there away
        rw [checkAll_eq, List.getElem?_map] at there
        rcases Option.map_eq_some_iff.1 there with ⟨s, before, rfl⟩
        cases silent place s before away with
        | cons out later => rwa [out.visit_eq]
      simp only [checkRounds]
      rw [checkAll_keepAt now, ih later]

/-! ## Calls -/

/-- A call by which a checker changes. -/
inductive CheckerCall where
  | configure (text : String) (context : CheckContext)
  | report
  deriving DecidableEq

/-- A checker and the calls that it got. -/
structure Recorder (σ : Type) where
  checker : σ
  calls : List CheckerCall

namespace Recorder

def new (checker : σ) : Recorder σ := ⟨checker, []⟩

instance : Checker (Recorder σ) where
  name recorder := name recorder.checker
  kind recorder := kind recorder.checker
  configure recorder text context :=
    ⟨configure recorder.checker text context, recorder.calls ++ [.configure text context]⟩
  report recorder :=
    ((report recorder.checker).1, ⟨(report recorder.checker).2, recorder.calls ++ [.report]⟩)

end Recorder

/-- The calls that a checker gets in a round in which it is not left out. -/
def Round.calls (round : Round) : List CheckerCall :=
  [.configure round.text round.context, .report]

/-- The rounds in which a checker is not left out. -/
def asked : List Round → σ → List Round
  | [], _ => []
  | round :: rest, s =>
    let later := asked rest (visit round.text round.context s).2
    if isSkipped s round.context then later else round :: later

/-- What a recorder adds to its checker does not show. -/
theorem visit_recorder (round : Round) (recorder : Recorder σ) :
    visit round.text round.context recorder =
      ((visit round.text round.context recorder.checker).1,
        ⟨(visit round.text round.context recorder.checker).2, recorder.calls ++
          if isSkipped recorder.checker round.context then [] else round.calls⟩) := by
  have same : isSkipped recorder round.context = isSkipped recorder.checker round.context := rfl
  cases skipped : isSkipped recorder.checker round.context with
  | true => simp [visit, same, skipped]
  | false =>
      have reported : report (configure recorder round.text round.context) =
          ((report (configure recorder.checker round.text round.context)).1,
            ⟨(report (configure recorder.checker round.text round.context)).2,
              recorder.calls ++ round.calls⟩) := by
        rw [Round.calls, ← List.singleton_append, ← List.append_assoc]
        rfl
      simp only [visit, same, skipped, check, reported]
      cases report (configure recorder.checker round.text round.context) with
      | mk result next => cases result <;> rfl

/-- Along the rounds each recorder collects the calls of those in which it is not left out. -/
theorem checkRounds_recorders (rounds : List Round) (recorders : List (Recorder σ)) :
    (checkRounds rounds recorders).1 =
        (checkRounds rounds (recorders.map Recorder.checker)).1 ∧
      (checkRounds rounds recorders).2.map Recorder.checker =
        (checkRounds rounds (recorders.map Recorder.checker)).2 ∧
      (checkRounds rounds recorders).2.map Recorder.calls =
        recorders.map fun recorder =>
          recorder.calls ++ (asked rounds recorder.checker).flatMap Round.calls := by
  induction rounds generalizing recorders with
  | nil => simp [checkRounds, asked]
  | cons round rest ih =>
      rcases ih (checkAll round.text round.context recorders).2 with ⟨lists, states, calls⟩
      have sameLists : (checkAll round.text round.context recorders).1 =
          (checkAll round.text round.context (recorders.map Recorder.checker)).1 := by
        rw [checkAll_eq, checkAll_eq, List.filterMap_map]
        simp only [visit_recorder]
        rfl
      have sameStates : (checkAll round.text round.context recorders).2.map Recorder.checker =
          (checkAll round.text round.context (recorders.map Recorder.checker)).2 := by
        rw [checkAll_eq, checkAll_eq, List.map_map, List.map_map]
        simp only [Function.comp_def, visit_recorder]
      simp only [checkRounds]
      rw [sameStates] at lists states
      refine ⟨by rw [sameLists, lists], states, ?_⟩
      rw [calls, checkAll_eq, List.map_map]
      refine List.map_congr_left fun recorder _ => ?_
      simp only [Function.comp_apply, visit_recorder, asked]
      split <;> simp

/-- Whether no call changes what a checker looks after. -/
structure KeepsKind (σ : Type) [Checker σ] : Prop where
  configure : ∀ (s : σ) (text : String) (context : CheckContext),
    kind (configure s text context) = kind s
  report : ∀ s : σ, kind (report s).2 = kind s

theorem ComesOut.kind_eq {outcome : Option (List Diagnostic) × σ} (keeps : KeepsKind σ)
    (out : ComesOut text context s outcome) : kind outcome.2 = kind s := by
  have kept {result : Except CheckerError (List Diagnostic)} {next : σ}
      (outcome : report (configure s text context) = (result, next)) : kind next = kind s := by
    have reported := keeps.report (configure s text context)
    rw [outcome] at reported
    exact reported.trans (keeps.configure s text context)
  cases out with
  | leftOut style off => rfl
  | failed asked failure => exact kept failure
  | reported asked success => exact kept success

theorem asked_eq_filter (keeps : KeepsKind σ) (rounds : List Round) (s : σ) :
    asked rounds s = rounds.filter fun round => !isSkipped s round.context := by
  induction rounds generalizing s with
  | nil => rfl
  | cons round rest ih =>
      have same (context : CheckContext) :
          isSkipped (visit round.text round.context s).2 context = isSkipped s context := by
        rw [isSkipped, isSkipped, (comesOut_visit round.text round.context s).kind_eq keeps]
      simp only [asked, ih, same, List.filter_cons]
      cases isSkipped s round.context <;> rfl

/-! ## Each checker for itself -/

/-- A round gives the lists of the checkers that are neither left out nor fail, in their order and
under their names, and a checker that is left out stays as it was. Without checkers that are left
out or fail the lists and the states of the others are the same, in one round or in many. Over many
rounds a checker gets the calls of just those rounds in which it is not left out; if it is always a
checker of layout or never, these are the rounds that the configuration gives it. -/
theorem checkers_are_on_their_own (checkers : List σ) :
    (∀ text context, ∃ outcomes, List.Forall₂ (ComesOut text context) checkers outcomes ∧
      checkAll text context checkers = (outcomes.filterMap Prod.fst, outcomes.map Prod.snd)) ∧
    (∀ text context keep,
      (∀ place s, checkers[place]? = some s → keep place = false →
        ∃ next, ComesOut text context s (none, next)) →
      checkAll text context (keepAt keep checkers) =
        ((checkAll text context checkers).1, keepAt keep (checkAll text context checkers).2)) ∧
    ∀ rounds,
      (∀ keep,
        (∀ place s, checkers[place]? = some s → keep place = false → Silent rounds s) →
        checkRounds rounds (keepAt keep checkers) =
          ((checkRounds rounds checkers).1, keepAt keep (checkRounds rounds checkers).2)) ∧
      (let recorded := checkRounds rounds (checkers.map Recorder.new)
       recorded.1 = (checkRounds rounds checkers).1 ∧
        recorded.2.map Recorder.checker = (checkRounds rounds checkers).2 ∧
        recorded.2.map Recorder.calls =
          checkers.map fun s => (asked rounds s).flatMap Round.calls) ∧
      (KeepsKind σ → ∀ s : σ, asked rounds s = rounds.filter fun round =>
        kind s != .style || round.context.config.styleCheck) := by
  refine ⟨?_, fun text context keep silent => checkAll_keepAt silent, ?_⟩
  · intro text context
    refine ⟨checkers.map (visit text context), ?_, ?_⟩
    · rw [List.forall₂_map_right_iff, List.forall₂_same]
      exact fun s _ => comesOut_visit text context s
    · rw [checkAll_eq, List.filterMap_map, List.map_map]
      rfl
  · intro rounds
    refine ⟨fun keep silent => checkRounds_keepAt silent, ?_, ?_⟩
    · have own : (checkers.map Recorder.new).map Recorder.checker = checkers := by
        rw [List.map_map]
        exact List.map_id checkers
      rcases checkRounds_recorders rounds (checkers.map Recorder.new) with ⟨lists, states, calls⟩
      rw [own] at lists states
      refine ⟨lists, states, ?_⟩
      rw [calls, List.map_map]
      exact List.map_congr_left fun s _ => List.nil_append _
    · intro keeps s
      rw [asked_eq_filter keeps]
      refine List.filter_congr fun round _ => ?_
      simp [isSkipped, bne]

/-- A checker with these reactions. -/
def scripted (name : String) (kind : CheckerKind) (reactions : List Replay.Reaction) :
    Replay.Actor :=
  .new ⟨name, kind, reactions, []⟩

/-- One checker that reports, one that fails, and one of layout that fails when it is first asked. -/
def reportingFailingLayout : List Replay.Actor :=
  [scripted "names" .lint [.echo], scripted "broken" .lint [.failure "no"],
    scripted "layout" .style [.failure "not yet", .echo]]

/-- What checkers are told with the check of layout off or on. -/
def layoutOff : CheckContext := ⟨none, ⟨false, 79⟩⟩

def layoutOn : CheckContext := ⟨none, ⟨true, 79⟩⟩

/-- The check of layout is switched on for the second and fourth of four texts. -/
def switchedRounds : List Round :=
  [⟨"a", layoutOff⟩, ⟨"b", layoutOn⟩, ⟨"c", layoutOff⟩, ⟨"d", layoutOn⟩]

theorem checkers_are_on_their_own_switched :
    let all := reportingFailingLayout
    let layout := scripted "layout" .style [.failure "not yet", .echo]
    KeepsKind Replay.Actor ∧
      checkAll "b" layoutOff (keepAt (· == 0) all) =
        ((checkAll "b" layoutOff all).1, keepAt (· == 0) (checkAll "b" layoutOff all).2) ∧
      checkRounds switchedRounds (keepAt (· != 1) all) =
        ((checkRounds switchedRounds all).1, keepAt (· != 1) (checkRounds switchedRounds all).2) ∧
      asked switchedRounds layout = [⟨"b", layoutOn⟩, ⟨"d", layoutOn⟩] := by
  intro all layout
  have keeps : KeepsKind Replay.Actor := ⟨fun _ _ _ => rfl, fun _ => rfl⟩
  rcases checkers_are_on_their_own all with ⟨-, once, along⟩
  rcases along switchedRounds with ⟨removed, -, filtered⟩
  refine ⟨keeps, once _ _ _ ?_, removed _ ?_, filtered keeps layout⟩
  · rintro (_ | _ | _ | place) s there away
    · cases away
    · cases there
      exact ⟨_, .failed (fun style => by cases style) rfl⟩
    · cases there
      exact ⟨_, .leftOut rfl rfl⟩
    · cases there
  · rintro (_ | _ | place) s there away
    · cases away
    · cases there
      have asked {context : CheckContext} :
          CheckerKind.lint = .style → context.config.styleCheck = true := by
        intro style
        cases style
      exact .cons (.failed asked rfl) (.cons (.failed asked rfl) (.cons (.failed asked rfl)
        (.cons (.failed asked rfl) (.nil _))))
    · cases away

end Checker
end EditorAnalysis
