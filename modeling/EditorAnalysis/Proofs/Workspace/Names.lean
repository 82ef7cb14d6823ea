import EditorAnalysis.Proofs.Scope.Context
import EditorAnalysis.Proofs.Workspace.History
import EditorAnalysis.Replay

/-!
# Names and hints of a session

What a session keeps of the texts that it was given is the state of its language, the names of the
last text without syntax errors, and the hints of the last text. Nothing but a new text changes
them.
-/

namespace EditorAnalysis

variable {β σ : Type} [Language β]

/-! ## Texts -/

/-- The text that a call gives to the session under an id, if it gives one. -/
def Call.text? (id : SessionId) : Call → Option String
  | .setSourceText target text => if target = id then some text else none
  | _ => none

/-- The texts that calls give to the session under an id. -/
def givenTexts (id : SessionId) (calls : List Call) : List String :=
  calls.filterMap (Call.text? id)

namespace Language

/-- Parses texts one after the other: what each of them gives, and the language at the end. -/
def parseAll (backend : β) : List String → List (Option ParsedSource) × β
  | [] => ([], backend)
  | text :: rest =>
    let (parsed, next) := Language.parse backend text
    let (others, last) := parseAll next rest
    (parsed :: others, last)

theorem parseAll_append_singleton (backend : β) (texts : List String) (text : String) :
    parseAll backend (texts ++ [text]) =
      ((parseAll backend texts).1 ++ [(Language.parse (parseAll backend texts).2 text).1],
        (Language.parse (parseAll backend texts).2 text).2) := by
  induction texts generalizing backend with
  | nil => rfl
  | cons first rest ih => simp [parseAll, ih]

end Language

/-- What the last text without syntax errors gave. -/
def lastGood (parses : List (Option ParsedSource)) : Option ParsedSource :=
  (parses.filterMap fun parsed => parsed).getLast?

theorem lastGood_append_some (parses : List (Option ParsedSource)) (found : ParsedSource) :
    lastGood (parses ++ [some found]) = some found := by
  simp [lastGood, List.filterMap_append]

theorem lastGood_append_none (parses : List (Option ParsedSource)) :
    lastGood (parses ++ [none]) = lastGood parses := by
  simp [lastGood, List.filterMap_append]

/-- The names that the last text without syntax errors declares; none if there is no such text. -/
def declaredBy (parses : List (Option ParsedSource)) : GlobalNames :=
  ((lastGood parses).map fun found => found.scopes.topNames).getD .empty

/-- The hints of the last text; none if it has syntax errors. -/
def hintsOf (parses : List (Option ParsedSource)) : List Hint :=
  (parses.getLast?.join.map ParsedSource.hints).getD []

/-! ## Sessions -/

namespace Session

/-- What a session has from the texts that it was given, for the language that it was created
with. -/
structure HasRead (backend : β) (texts : List String) (s : Session β σ) : Prop where
  backend_eq : s.backend = (Language.parseAll backend texts).2
  scopes_eq : s.scopes = .ofLast (Language.hostNames backend)
    ((lastGood (Language.parseAll backend texts).1).map ParsedSource.scopes)
  hints_eq : s.hints = hintsOf (Language.parseAll backend texts).1

variable {backend : β} {texts : List String} {s : Session β σ}

theorem hasRead_new (backend : β) (checkers : List σ) :
    HasRead backend [] (Session.new backend checkers) :=
  ⟨rfl, rfl, rfl⟩

theorem HasRead.setSourceText [Checker σ] (read : HasRead backend texts s) (text : String)
    (config : Config) :
    HasRead backend (texts ++ [text]) (s.setSourceText text config) := by
  have backend_eq : (s.setSourceText text config).backend = (Language.parse s.backend text).2 := rfl
  have scopes_eq : (s.setSourceText text config).scopes =
      ((Language.parse s.backend text).1.map fun found => s.scopes.rebuild found.scopes).getD
        s.scopes := rfl
  have hints_eq : (s.setSourceText text config).hints =
      ((Language.parse s.backend text).1.map ParsedSource.hints).getD [] := rfl
  rw [read.backend_eq] at backend_eq scopes_eq hints_eq
  refine ⟨?_, ?_, ?_⟩
  · rw [Language.parseAll_append_singleton]
    exact backend_eq
  · rw [Language.parseAll_append_singleton, scopes_eq]
    -- A text with syntax errors leaves the tree of the last one without.
    cases (Language.parse (Language.parseAll backend texts).2 text).1 with
    | none =>
        rw [lastGood_append_none]
        exact read.scopes_eq
    | some found =>
        rw [lastGood_append_some, Option.map_some, Option.getD_some, read.scopes_eq]
        exact ScopeContext.rebuild_ofLast _ _ _
  · rw [Language.parseAll_append_singleton, hints_eq, hintsOf, List.getLast?_concat]
    rfl

end Session

variable [Checker σ] {id : SessionId}

/-- Replaced lines, directories and calls to other sessions leave what was parsed. -/
theorem Call.effect_of_text?_eq_none {call : Call} (h : call.text? id = none) (config : Config)
    (s : Session β σ) :
    (call.effect id config s).backend = s.backend ∧ (call.effect id config s).scopes = s.scopes ∧
      (call.effect id config s).hints = s.hints := by
  cases call with
  | setSourceText target text =>
      by_cases own : target = id
      · simp [text?, own] at h
      · simp [effect, own]
  | setSourceDirectory target directory =>
      by_cases own : target = id <;> simp [effect, own, Session.setSourceDirectory]
  | replaceLine target line text =>
      by_cases own : target = id <;> simp [effect, own, Session.replaceLine]
  | _ => exact ⟨rfl, rfl, rfl⟩

theorem Call.eq_of_text?_eq_some {call : Call} {text : String} (h : call.text? id = some text) :
    call = .setSourceText id text := by
  cases call with
  | setSourceText target given =>
      by_cases own : target = id
      · simpa [text?, own] using h
      · simp [text?, own] at h
  | _ => cases h

theorem Session.HasRead.effect {backend : β} {calls : List Call} {s : Session β σ}
    (read : s.HasRead backend (givenTexts id calls)) (config : Config) (call : Call) :
    (call.effect id config s).HasRead backend (givenTexts id (calls ++ [call])) := by
  rw [givenTexts, List.filterMap_append]
  cases given : call.text? id with
  | none =>
      rcases Call.effect_of_text?_eq_none given config s with ⟨backend_eq, scopes_eq, hints_eq⟩
      rw [List.filterMap_cons_none given, List.filterMap_nil, List.append_nil]
      exact ⟨backend_eq.trans read.backend_eq, scopes_eq.trans read.scopes_eq,
        hints_eq.trans read.hints_eq⟩
  | some text =>
      have changed : call.effect id config s = s.setSourceText text config := by
        simp [Call.eq_of_text?_eq_some given, Call.effect]
      rw [List.filterMap_cons_some given, List.filterMap_nil, changed]
      exact read.setSourceText text config

/-! ## Workspaces -/

namespace Workspace

variable {w : Workspace β σ} {s : Session β σ} {call : Call}

theorem perform_globalNames (live : w.session id = .ok s) :
    (w.perform (.globalNames id)).1 = .ok (.globalNames s.globalNames) := by
  simp [perform, ask, live, Except.map]

theorem perform_hints (live : w.session id = .ok s) :
    (w.perform (.hints id)).1 = .ok (.hints s.hints) := by
  simp [perform, ask, live, Except.map]

theorem perform_report (live : w.session id = .ok s) (path : String) :
    (w.perform (.report id path)).1 = .ok (.report (Report.ofSession s path)) := by
  simp [perform, ask, live, Except.map]

/-- Only a text, or the end of the session, changes the names and hints of a session. -/
theorem names_perform (live : w.session id = .ok s) (text : call.text? id = none)
    (created : ¬ w.Creates call id) (destroyed : call ≠ .destroy id) :
    ((w.perform call).2.perform (.globalNames id)).1 = (w.perform (.globalNames id)).1 ∧
      ((w.perform call).2.perform (.hints id)).1 = (w.perform (.hints id)).1 := by
  have next : (w.perform call).2.session id = .ok (call.effect id w.config s) := by
    rw [session_perform created destroyed, live]
    rfl
  rcases Call.effect_of_text?_eq_none text w.config s with ⟨-, scopes_eq, hints_eq⟩
  constructor
  · rw [perform_globalNames next, perform_globalNames live, Session.globalNames, scopes_eq]
    rfl
  · rw [perform_hints next, perform_hints live, hints_eq]

/-- A session that is there after any calls shows the names of the host language and behind them
those that the last of its texts without syntax errors declares; a report shows the latter alone.
The hints are those of the last text. Calls that neither give the session a text nor end it leave
them. -/
theorem session_shows_last_good_names (config : Config) (backends : Nat → Except BackendError β)
    (factories : List (Checker.Factory σ)) (calls : List Call) (id : SessionId)
    (s : Session β σ) (live : ((new config backends factories).run calls).2.session id = .ok s) :
    ∃ before backend after, (new config backends factories).Life calls id before backend after ∧
      let w := ((new config backends factories).run calls).2
      let parses := (Language.parseAll backend (givenTexts id after)).1
      (w.perform (.globalNames id)).1 =
          .ok (.globalNames ((Language.hostNames backend).inFrontOf (declaredBy parses))) ∧
        (w.perform (.hints id)).1 = .ok (.hints (hintsOf parses)) ∧
        (∀ path, ∃ report, (w.perform (.report id path)).1 = .ok (.report report) ∧
          report.globals = declaredBy parses) ∧
        ∀ call : Call, call.text? id = none → ¬ w.Creates call id → call ≠ .destroy id →
          ((w.perform call).2.perform (.globalNames id)).1 = (w.perform (.globalNames id)).1 ∧
            ((w.perform call).2.perform (.hints id)).1 = (w.perform (.hints id)).1 := by
  have fresh : ∀ s, (new config backends factories).session id ≠ .ok s := by
    intro s found
    cases found
  rcases exists_life (P := fun backend after s => s.HasRead backend (givenTexts id after)) fresh
    Session.hasRead_new (fun _ _ _ config call read => read.effect config call) calls live
    with ⟨before, backend, after, life, read⟩
  refine ⟨before, backend, after, life, ?_, ?_, ?_, ?_⟩
  · rw [perform_globalNames live, Session.globalNames, read.scopes_eq,
      ScopeContext.globalNames_ofLast, Option.map_map]
    rfl
  · rw [perform_hints live, read.hints_eq]
  · intro path
    refine ⟨Report.ofSession s path, perform_report live path, ?_⟩
    rw [Report.ofSession, read.scopes_eq, ScopeContext.declaredNames_ofLast, Option.map_map]
    rfl
  · intro call text created destroyed
    exact names_perform live text created destroyed

/-- A language in which a text declares a function that the language provides. -/
def shadowing : Replay.Backend where
  tokenizer := Replay.tokenizer ⟨[], [], "", ""⟩ []
  host := ⟨["print"], ["int"]⟩
  parses :=
    [("good", ⟨.mk "" .module [⟨"os", .module⟩, ⟨"x", .local⟩]
      [.mk "print" .function [] [], .mk "C" .classDef [] []], [⟨.function, 0, "print"⟩]⟩)]

/-- A text that parses, one that does not, and then edits and another session. -/
def goodThenBad : List Call :=
  [.create, .setSourceText ⟨1⟩ "good", .create, .setSourceText ⟨1⟩ "bad",
    .replaceLine ⟨1⟩ 0 "good", .setSourceText ⟨2⟩ "good", .setSourceDirectory ⟨1⟩ "src"]

theorem session_shows_last_good_names_shadowing :
    let start : Workspace Replay.Backend Replay.Actor :=
      new Config.default (Replay.attempts shadowing []) []
    ∃ before backend after, start.Life goodThenBad ⟨1⟩ before backend after ∧
      let parses := (Language.parseAll backend (givenTexts ⟨1⟩ after)).1
      (Language.hostNames backend).inFrontOf (declaredBy parses) =
          ⟨["os"], ["print", "print"], ["int", "C"]⟩ ∧
        declaredBy parses = ⟨["os"], ["print"], ["C"]⟩ ∧ hintsOf parses = [] := by
  intro start
  have answered : ((start.run goodThenBad).2.ask ⟨1⟩ fun s =>
      (s.globalNames, s.scopes.declaredNames, s.hints)).toOption =
        some (⟨["os"], ["print", "print"], ["int", "C"]⟩, ⟨["os"], ["print"], ["C"]⟩, []) := by
    decide +kernel
  rcases exists_of_ask answered with ⟨s, live, shown⟩
  simp only [Prod.mk.injEq] at shown
  rcases shown with ⟨names, declared, hints⟩
  rcases session_shows_last_good_names _ _ _ _ _ s live
    with ⟨before, backend, after, life, named, hinted, reported, -⟩
  rcases reported "good.py" with ⟨report, made, globals⟩
  refine ⟨before, backend, after, life, ?_, ?_, ?_⟩
  · rw [perform_globalNames live, names] at named
    simpa using named.symm
  · rw [perform_report live] at made
    cases made
    exact globals.symm.trans declared
  · rw [perform_hints live, hints] at hinted
    simpa using hinted.symm

end Workspace
end EditorAnalysis
