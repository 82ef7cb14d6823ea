import EditorAnalysis.Proofs.Workspace.Run
import Mathlib.Data.List.Induction

/-!
# The life of a session

A session that is there was created by one of the calls made so far, and what became of it since
then is what the calls after that one made of it, each in its turn. So a property that a session
has by its past is proved along its life: for a new session, and from each call to the next.
-/

namespace EditorAnalysis

variable {β σ : Type} [Language β] [Checker σ]

/-- What a call makes of the session under an id, unless it creates or destroys it. -/
def Call.effect (id : SessionId) (config : Config) : Call → Session β σ → Session β σ
  | .setSourceDirectory target directory, s =>
    if target = id then s.setSourceDirectory directory else s
  | .setSourceText target text, s => if target = id then s.setSourceText text config else s
  | .replaceLine target line text, s => if target = id then (s.replaceLine line text).2 else s
  | _, s => s

namespace Workspace

variable {w : Workspace β σ} {id : SessionId} {s : Session β σ} {call : Call}

/-! ## One call -/

/-- Whether a call hands out an id. -/
def Creates (w : Workspace β σ) (call : Call) (id : SessionId) : Prop :=
  (w.perform call).1 = .ok (.created id)

theorem creates_iff : w.Creates call id ↔ call = .create ∧ w.create.1 = .ok id := by
  cases call with
  | create => cases outcome : w.create.1 <;> simp [Creates, perform, outcome, Except.map]
  | destroy target =>
      cases outcome : (w.destroy target).1 <;> simp [Creates, perform, outcome, Except.map]
  | setSourceDirectory target directory =>
      cases outcome : (w.setSourceDirectory target directory).1 <;>
        simp [Creates, perform, outcome, Except.map]
  | setSourceText target text =>
      cases outcome : (w.setSourceText target text).1 <;>
        simp [Creates, perform, outcome, Except.map]
  | replaceLine target line text =>
      cases outcome : (w.replaceLine target line text).1 <;>
        simp [Creates, perform, outcome, Except.map]
  | sessionIds | setStyleCheck | setConfig | catalogSize => simp [Creates, perform]
  | diagnostics target | lineClasses target | lineRanks target | globalNames target
  | hints target | session target | report target =>
      cases found : w.session target <;> simp [Creates, perform, ask, found, Except.map]

/-- A call that neither creates nor destroys the session under an id has its effect on it. -/
theorem session_perform (created : ¬ w.Creates call id) (destroyed : call ≠ .destroy id) :
    (w.perform call).2.session id = (w.session id).map (call.effect id w.config) := by
  have kept : (w.session id).map (fun s => s) = w.session id := by
    cases w.session id <;> rfl
  have updated {α : Type} (target : SessionId) (change : Session β σ → α × Session β σ) :
      (w.update target change).2.session id =
        (w.session id).map fun s => if target = id then (change s).2 else s := by
    rw [session_update]
    by_cases own : id = target
    · simp [own]
    · simp [own, Ne.symm own, kept]
  cases call with
  | create =>
      have other : w.create.1 ≠ .ok id := fun same => created (creates_iff.2 ⟨rfl, same⟩)
      exact (session_create_of_ne other).trans kept.symm
  | destroy target =>
      have other : target ≠ id := fun same => destroyed (congrArg Call.destroy same)
      exact (session_destroy_of_ne other).trans kept.symm
  | setSourceDirectory target directory =>
      exact updated target fun s => ((), s.setSourceDirectory directory)
  | setSourceText target text => exact updated target fun s => ((), s.setSourceText text w.config)
  | replaceLine target line text => exact updated target fun s => s.replaceLine line text
  | sessionIds | diagnostics | lineClasses | lineRanks | globalNames | hints | setStyleCheck
  | setConfig | catalogSize | session | report => exact kept.symm

/-! ## Runs -/

theorem run_append (w : Workspace β σ) (front back : List Call) :
    w.run (front ++ back) =
      ((w.run front).1 ++ ((w.run front).2.run back).1, ((w.run front).2.run back).2) := by
  induction front generalizing w with
  | nil => rfl
  | cons call rest ih => simp [run, ih]

/-- The calls of a run by their part in the life of the session that is under an id at the end: the
one between `before` and `after` created it with a language, and no later one created another. -/
structure Life (w : Workspace β σ) (calls : List Call) (id : SessionId) (before : List Call)
    (backend : β) (after : List Call) : Prop where
  calls_eq : calls = before ++ .create :: after
  backend_eq : (w.run before).2.backends (w.run before).2.attempts = .ok backend
  created : (w.run before).2.Creates .create id
  last : .ok (.created id) ∉ (((w.run before).2.perform .create).2.run after).1

theorem run_of_life {calls before after : List Call} {backend : β}
    (life : w.Life calls id before backend after) :
    (((w.run before).2.perform .create).2.run after).2 = (w.run calls).2 := by
  rw [life.calls_eq, run_append]
  rfl

/-- A life goes on with a call that does not create another session under the id. -/
theorem Life.append {calls before after : List Call} {backend : β}
    (life : w.Life calls id before backend after) (h : ¬ (w.run calls).2.Creates call id) :
    w.Life (calls ++ [call]) id before backend (after ++ [call]) where
  calls_eq := by simp [life.calls_eq]
  backend_eq := life.backend_eq
  created := life.created
  last := by
    rw [run_append, run_of_life life]
    intro member
    rcases List.mem_append.1 member with early | late
    · exact life.last early
    · exact h (List.mem_singleton.1 late).symm

/-- What holds of new sessions and is kept by what calls make of them holds of every session along
its life. -/
theorem exists_life {P : β → List Call → Session β σ → Prop}
    (fresh : ∀ s, w.session id ≠ .ok s)
    (born : ∀ backend checkers, P backend [] (Session.new backend checkers))
    (grows : ∀ backend after s config call,
      P backend after s → P backend (after ++ [call]) (call.effect id config s))
    (calls : List Call) (live : (w.run calls).2.session id = .ok s) :
    ∃ before backend after, w.Life calls id before backend after ∧ P backend after s := by
  -- The last call has created the session, or has had its effect on it.
  induction calls using List.reverseRecOn generalizing s with
  | nil => exact absurd live (fresh s)
  | append_singleton calls call ih =>
      have step : ((w.run calls).2.perform call).2.session id = .ok s := by
        rw [run_append] at live
        exact live
      by_cases created : (w.run calls).2.Creates call id
      · rcases creates_iff.1 created with ⟨rfl, made⟩
        rcases session_of_create made with ⟨backend, given, new⟩
        cases new.symm.trans step
        exact ⟨calls, backend, [], ⟨rfl, given, created, List.not_mem_nil⟩, born backend _⟩
      · have destroyed : call ≠ .destroy id := by
          rintro rfl
          exact session_destroy_self_ne_ok _ _ _ step
        rw [session_perform created destroyed] at step
        cases there : (w.run calls).2.session id with
        | error e =>
            rw [there] at step
            cases step
        | ok earlier =>
            rw [there] at step
            cases step
            rcases ih there with ⟨before, backend, after, life, holds⟩
            exact ⟨before, backend, after ++ [call], life.append created,
              grows backend after earlier _ call holds⟩

end Workspace
end EditorAnalysis
