import EditorAnalysis.Workspace.Call

/-!
# Runs of a workspace

What a call does to the session under an id: it makes a new one, changes the one that is there in
one of three ways, or leaves it. So what all new sessions have and the three changes keep holds of
every session after any calls.
-/

namespace EditorAnalysis

/-! ## Registries -/

namespace Registry

variable {α : Type}

theorem find?_put (registry : Registry α) (id other : SessionId) (a : α) :
    (put id a registry).find? other = if other = id then some a else registry.find? other := by
  induction registry with
  | nil =>
      by_cases same : other = id
      · simp [put, find?, same]
      · simp [put, find?, same, Ne.symm same]
  | cons entry rest ih =>
      rcases entry with ⟨key, b⟩
      unfold put
      split
      · by_cases same : other = id
        · simp [find?, same]
        · simp [find?, same, Ne.symm same]
      · split
        case isTrue replaced =>
          by_cases same : other = id
          · simp [find?, same]
          · simp [find?, same, Ne.symm same, ← replaced]
        case isFalse kept =>
          by_cases first : key = other
          · have apart : other ≠ id := fun same => kept (same ▸ first.symm)
            simp [find?, first, apart]
          · simpa [find?, first] using ih

theorem find?_set (registry : Registry α) (id other : SessionId) (a : α) :
    (registry.set id a).find? other =
      if other = id then (registry.find? id).map fun _ => a else registry.find? other := by
  induction registry with
  | nil => simp [set, find?]
  | cons entry rest ih =>
      rcases entry with ⟨key, b⟩
      by_cases replaced : key = id
      · by_cases same : other = id
        · simp [set, find?, replaced, same]
        · simpa [set, find?, replaced, same, Ne.symm same] using ih
      · by_cases first : key = other
        · have apart : other ≠ id := fun same => replaced (first.trans same)
          simp [set, find?, first, apart]
        · simpa [set, find?, replaced, first] using ih

theorem find?_remove (registry : Registry α) (id other : SessionId) :
    (registry.remove id).find? other = if other = id then none else registry.find? other := by
  induction registry with
  | nil => simp [remove, find?]
  | cons entry rest ih =>
      rcases entry with ⟨key, b⟩
      by_cases removed : key = id
      · by_cases same : other = id
        · simp [remove, find?, removed, same]
        · simpa [remove, find?, removed, same, Ne.symm same] using ih
      · by_cases first : key = other
        · have apart : other ≠ id := fun same => removed (first.trans same)
          simp [remove, find?, first, apart]
        · simpa [remove, find?, removed, first] using ih

end Registry

namespace Workspace

variable {β σ α : Type} {w : Workspace β σ} {id other : SessionId} {s : Session β σ}

/-! ## Operations -/

theorem session_eq_ok_iff : w.session id = .ok s ↔ w.sessions.find? id = some s := by
  unfold session
  split
  case h_1 found => simp [found]
  case h_2 missing => simp [missing]

theorem session_create [Language β]
    (h : w.create.2.session id = .ok s) :
    w.session id = .ok s ∨ ∃ backend, w.backends w.attempts = .ok backend ∧
      s = Session.new backend w.catalog.instantiate.1 := by
  unfold create at h
  split at h
  case h_1 reason failed => exact .inl h
  case h_2 backend given =>
    rw [session_eq_ok_iff, Registry.find?_put] at h
    split at h
    · exact .inr ⟨backend, given, (Option.some.inj h).symm⟩
    · exact .inl (session_eq_ok_iff.2 h)

/-- A created session is found under the id that was handed out for it. -/
theorem exists_create [Language β] {backend : β} (given : w.backends w.attempts = .ok backend) :
    ∃ id next, w.create = (.ok id, next) ∧ next.config = w.config ∧
      next.session id = .ok (Session.new backend w.catalog.instantiate.1) := by
  refine ⟨⟨w.lastId + 1⟩, w.create.2, ?_, ?_, ?_⟩
  · simp [create, given]
  · simp [create, given]
  · rw [session_eq_ok_iff, create, given, Registry.find?_put, if_pos rfl]

theorem session_destroy (h : (w.destroy id).2.session other = .ok s) :
    w.session other = .ok s := by
  unfold destroy at h
  split at h
  · rw [session_eq_ok_iff, Registry.find?_remove] at h
    split at h
    · cases h
    · exact session_eq_ok_iff.2 h
  · exact h

/-- The session under an id that is handed out is new. -/
theorem session_of_create [Language β] (h : w.create.1 = .ok id) :
    ∃ backend, w.backends w.attempts = .ok backend ∧
      w.create.2.session id = .ok (Session.new backend w.catalog.instantiate.1) := by
  cases given : w.backends w.attempts with
  | error reason => simp [create, given] at h
  | ok backend =>
      rcases exists_create given with ⟨made, next, created, -, live⟩
      rw [created] at h ⊢
      cases h
      exact ⟨backend, rfl, live⟩

theorem session_create_of_ne [Language β] (h : w.create.1 ≠ .ok id) :
    w.create.2.session id = w.session id := by
  cases given : w.backends w.attempts with
  | error reason => simp [create, given, session]
  | ok backend =>
      have other : id ≠ ⟨w.lastId + 1⟩ := by
        rintro rfl
        exact h (by simp [create, given])
      simp [create, given, session, Registry.find?_put, other]

theorem session_destroy_of_ne (h : id ≠ other) :
    (w.destroy id).2.session other = w.session other := by
  unfold destroy
  split
  · simp [session, Registry.find?_remove, h.symm]
  · rfl

/-- A destroyed session is not there any more. -/
theorem session_destroy_self_ne_ok (w : Workspace β σ) (id : SessionId) (s : Session β σ) :
    (w.destroy id).2.session id ≠ .ok s := by
  intro live
  rw [session_eq_ok_iff] at live
  unfold destroy at live
  split at live
  case h_1 => simp [Registry.find?_remove] at live
  case h_2 e missing => simp [session, live] at missing

/-- An update changes the session that it is addressed to and no other. -/
theorem session_update (w : Workspace β σ) (id other : SessionId)
    (change : Session β σ → α × Session β σ) :
    (w.update id change).2.session other =
      if other = id then (w.session id).map fun s => (change s).2 else w.session other := by
  unfold update
  split
  case h_1 s found =>
    rw [session, Registry.find?_set, session_eq_ok_iff.1 found]
    by_cases same : other = id
    · simp [same, found, Except.map]
    · simp [same, session]
  case h_2 e missing =>
    by_cases same : other = id
    · simp [same, missing, Except.map]
    · simp [same]

theorem session_update_self {change : Session β σ → α × Session β σ} (h : w.session id = .ok s) :
    (w.update id change).2.session id = .ok (change s).2 := by
  rw [session_update, if_pos rfl, h]
  rfl

theorem session_update_cases {change : Session β σ → α × Session β σ}
    (h : (w.update id change).2.session other = .ok s) :
    w.session other = .ok s ∨
      id = other ∧ ∃ before, w.session other = .ok before ∧ s = (change before).2 := by
  rw [session_update] at h
  split at h
  case isTrue same =>
    subst same
    cases found : w.session other with
    | ok before =>
        rw [found] at h
        exact .inr ⟨rfl, before, rfl, (Except.ok.inj h).symm⟩
    | error e =>
        rw [found] at h
        cases h
  case isFalse => exact .inl h

theorem config_update (w : Workspace β σ) (id : SessionId)
    (change : Session β σ → α × Session β σ) : (w.update id change).2.config = w.config := by
  unfold update
  split <;> rfl

/-- Only a session that is there answers. -/
theorem exists_of_ask {question : Session β σ → α} {a : α}
    (h : (w.ask id question).toOption = some a) : ∃ s, w.session id = .ok s ∧ question s = a := by
  cases live : w.session id with
  | error e =>
      rw [ask, live] at h
      cases h
  | ok s =>
      rw [ask, live] at h
      exact ⟨s, rfl, Option.some.inj h⟩

/-! ## Calls -/

variable [Language β] [Checker σ]

theorem session_setSourceText (live : w.session id = .ok s) (text : String) :
    (w.setSourceText id text).2.session id = .ok (s.setSourceText text w.config) :=
  session_update_self live

/-- The ways in which a call can leave a session under an id. -/
inductive Leaves (w : Workspace β σ) (id : SessionId) : Call → Session β σ → Prop where
  | kept {call : Call} {s : Session β σ} : w.session id = .ok s → w.Leaves id call s
  | created {backend : β} :
      w.backends w.attempts = .ok backend →
        w.Leaves id .create (Session.new backend w.catalog.instantiate.1)
  | sourceDirectory {directory : String} {s : Session β σ} :
      w.session id = .ok s →
        w.Leaves id (.setSourceDirectory id directory) (s.setSourceDirectory directory)
  | sourceText {text : String} {s : Session β σ} :
      w.session id = .ok s → w.Leaves id (.setSourceText id text) (s.setSourceText text w.config)
  | line {line : Nat} {text : String} {s : Session β σ} :
      w.session id = .ok s → w.Leaves id (.replaceLine id line text) (s.replaceLine line text).2

theorem leaves_of_session_perform {call : Call}
    (h : (w.perform call).2.session id = .ok s) : w.Leaves id call s := by
  cases call with
  | create =>
      rcases session_create h with kept | ⟨backend, given, rfl⟩
      · exact .kept kept
      · exact .created given
  | destroy target => exact .kept (session_destroy h)
  | setSourceDirectory target directory =>
      have updated : (w.setSourceDirectory target directory).2.session id = .ok s := h
      rcases session_update_cases updated with kept | ⟨rfl, before, found, rfl⟩
      · exact .kept kept
      · exact .sourceDirectory found
  | setSourceText target text =>
      have updated : (w.setSourceText target text).2.session id = .ok s := h
      rcases session_update_cases updated with kept | ⟨rfl, before, found, rfl⟩
      · exact .kept kept
      · exact .sourceText found
  | replaceLine target line text =>
      have updated : (w.replaceLine target line text).2.session id = .ok s := h
      rcases session_update_cases updated with kept | ⟨rfl, before, found, rfl⟩
      · exact .kept kept
      · exact .line found
  | sessionIds | diagnostics | lineClasses | lineRanks | globalNames | hints | setStyleCheck
  | setConfig | catalogSize | session | report => exact .kept h

/-- Whether two workspaces have the same languages and checkers for new sessions. -/
def SameSources (v w : Workspace β σ) : Prop :=
  v.backends = w.backends ∧
    v.catalog.map Checker.Source.factory = w.catalog.map Checker.Source.factory

theorem sameSources_perform (w : Workspace β σ) (call : Call) :
    (w.perform call).2.SameSources w := by
  have created : w.create.2.SameSources w := by
    unfold create
    split
    · exact ⟨rfl, rfl⟩
    · simp [SameSources, Checker.Catalog.instantiate, Function.comp_def]
  have destroyed (id : SessionId) : (w.destroy id).2.SameSources w := by
    unfold destroy
    split <;> exact ⟨rfl, rfl⟩
  have updated {α : Type} (id : SessionId) (change : Session β σ → α × Session β σ) :
      (w.update id change).2.SameSources w := by
    unfold update
    split <;> exact ⟨rfl, rfl⟩
  cases call with
  | create => exact created
  | destroy id => exact destroyed id
  | setSourceDirectory id directory =>
      exact updated id fun s => ((), s.setSourceDirectory directory)
  | setSourceText id text => exact updated id fun s => ((), s.setSourceText text w.config)
  | replaceLine id line text => exact updated id fun s => s.replaceLine line text
  | sessionIds | diagnostics | lineClasses | lineRanks | globalNames | hints | setStyleCheck
  | setConfig | catalogSize | session | report => exact ⟨rfl, rfl⟩

/-! ## Runs -/

/-- What every call keeps holds after any calls. -/
theorem run_preserves {P : Workspace β σ → Prop}
    (step : ∀ w call, P w → P (w.perform call).2) (calls : List Call) (h : P w) :
    P (w.run calls).2 := by
  induction calls generalizing w with
  | nil => exact h
  | cons call rest ih => exact ih (step w call h)

end Workspace
end EditorAnalysis
