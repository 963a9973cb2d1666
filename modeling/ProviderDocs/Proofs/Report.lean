import ProviderDocs.Report

/-!
# What a report comes to

The warnings collected before a report starts have no say in what it comes to.  `Report.FailsIff`
gives the condition on which it ends in a fault, and `Report.Yields` the values that it comes to.
Both follow the report step by step: two steps fail when either does (`FailsIff.bind`), and come to
what the second comes to after the first (`yields_bind`).  One report may come to whatever another
one comes to (`Report.Entails`), which follows step by step too.  A report adds its warnings to
those before it (`Report.ComesTo`): the same ones whenever it comes to a value (`Report.Adds`), and
they may all be of one sort (`Report.Collects`).
-/

namespace ProviderDocs

/-- Work without warnings fails exactly on a condition. -/
def Fault.RaisedIff {α : Type} (result : Except Fault α) (condition : Prop) : Prop :=
  (∃ fault, result = .error fault) ↔ condition

namespace Fault.RaisedIff

variable {α β : Type} {P Q : Prop} {result : Except Fault α}

theorem congr (h : RaisedIff result P) (hpq : P ↔ Q) : RaisedIff result Q :=
  h.trans hpq

theorem ok (value : α) : RaisedIff (.ok value) False := by
  simp [RaisedIff]

/-- Two steps fail when the first does, or the second after it. -/
theorem bind {next : α → Except Fault β} (hr : RaisedIff result P)
    (hn : ∀ value, RaisedIff (next value) Q) : RaisedIff (result >>= next) (P ∨ Q) := by
  cases result with
  | ok value =>
    have hp : ¬P := fun h => by simpa using hr.mpr h
    exact (hn value).trans (by simp [hp])
  | error fault => exact iff_of_true ⟨fault, rfl⟩ (.inl (hr.mp ⟨fault, rfl⟩))

end Fault.RaisedIff

section Except

variable {α β : Type} {fault : Fault}

theorem bind_eq_ok_iff {outcome : Except Fault α} {next : α → Except Fault β} {value : β} :
    outcome >>= next = .ok value ↔ ∃ first, outcome = .ok first ∧ next first = .ok value := by
  cases outcome <;> simp [bind, Except.bind]

theorem bind_eq_error_iff {outcome : Except Fault α} {next : α → Except Fault β} :
    outcome >>= next = .error fault ↔
      outcome = .error fault ∨ ∃ first, outcome = .ok first ∧ next first = .error fault := by
  cases outcome <;> simp [bind, Except.bind]

@[simp]
theorem pure_eq_ok_iff {first value : α} :
    (pure first : Except Fault α) = .ok value ↔ first = value := by
  simp [pure, Except.pure]

@[simp]
theorem not_pure_eq_error {first : α} : ¬(pure first : Except Fault α) = .error fault := by
  simp [pure, Except.pure]

variable {step : α → Except Fault β} {items : List α}

theorem exists_mapM_eq_ok_iff :
    (∃ values, items.mapM step = .ok values) ↔ ∀ item ∈ items, ∃ value, step item = .ok value := by
  induction items with
  | nil => simp
  | cons item rest ih =>
    rw [List.mapM_cons, List.forall_mem_cons, ← ih]
    simp only [bind_eq_ok_iff, pure_eq_ok_iff]
    constructor
    · rintro ⟨_, value, hv, values, hs, -⟩
      exact ⟨⟨value, hv⟩, values, hs⟩
    · rintro ⟨⟨value, hv⟩, values, hs⟩
      exact ⟨_, value, hv, values, hs, rfl⟩

/-- What goes wrong over a list is what goes wrong first. -/
theorem mapM_eq_error_iff :
    items.mapM step = .error fault ↔
      ∃ before item after, items = before ++ item :: after ∧
        (∀ other ∈ before, ∃ value, step other = .ok value) ∧ step item = .error fault := by
  induction items with
  | nil => simp
  | cons item rest ih =>
    simp only [List.mapM_cons, bind_eq_error_iff, not_pure_eq_error, and_false, exists_false,
      or_false, ih]
    constructor
    · rintro (hf | ⟨value, hv, before, other, after, rfl, hb, hf⟩)
      · exact ⟨[], item, rest, rfl, by simp, hf⟩
      · exact ⟨item :: before, other, after, rfl, List.forall_mem_cons.mpr ⟨⟨value, hv⟩, hb⟩, hf⟩
    · rintro ⟨_ | ⟨first, before⟩, other, after, he, hb, hf⟩
      · cases he
        exact .inl hf
      · cases he
        obtain ⟨⟨value, hv⟩, hb⟩ := List.forall_mem_cons.mp hb
        exact .inr ⟨value, hv, before, other, after, rfl, hb, hf⟩

end Except

namespace Report

variable {α β : Type} {P Q : Prop} {report : Report α}

/-- A report ends in a fault exactly on a condition, whatever warnings were collected before it. -/
def FailsIff (report : Report α) (condition : Prop) : Prop :=
  ∀ warnings, (∃ fault after, report.run warnings = .error fault after) ↔ condition

/-- Warnings are handed on from step to step, up to the first fault. -/
theorem run_bind (report : Report α) (next : α → Report β) (warnings : List Warning) :
    (report >>= next).run warnings =
      match report.run warnings with
      | .ok value after => (next value).run after
      | .error fault after => .error fault after := by
  show EStateM.bind report next warnings = _
  unfold EStateM.bind EStateM.run
  cases report warnings <;> rfl

/-- A report that nothing was collected before comes to a fault when it ends in one. -/
theorem exists_result_eq_error_iff :
    (∃ fault, report.result.1 = .error fault) ↔
      ∃ fault after, report.run [] = .error fault after := by
  unfold result
  cases report.run [] <;> simp

namespace FailsIff

theorem congr (h : report.FailsIff P) (hpq : P ↔ Q) : report.FailsIff Q :=
  fun warnings => (h warnings).trans hpq

theorem pure (value : α) : FailsIff (pure value) False := by
  intro warnings
  refine iff_of_false ?_ not_false
  rintro ⟨fault, after, h⟩
  cases h

/-- Two steps fail when the first does, or the second after it. -/
theorem bind {next : α → Report β} (hr : report.FailsIff P)
    (hn : ∀ value, (next value).FailsIff Q) : FailsIff (report >>= next) (P ∨ Q) := by
  intro warnings
  rw [run_bind]
  cases hw : report.run warnings with
  | ok value after =>
    -- The first step did not fail, so that all is left to the second.
    have hp : ¬P := fun h => by simpa [hw] using (hr warnings).mpr h
    simpa [hp] using hn value after
  | error fault after => exact iff_of_true ⟨fault, after, rfl⟩ (.inl ((hr warnings).mp ⟨_, _, hw⟩))

theorem ofExcept {result : Except Fault α} (h : Fault.RaisedIff result P) :
    (Report.ofExcept result).FailsIff P := by
  intro warnings
  cases result with
  | ok value =>
    refine iff_of_false ?_ fun hp => by simpa using h.mpr hp
    rintro ⟨fault, after, hf⟩
    cases hf
  | error fault => exact iff_of_true ⟨fault, warnings, rfl⟩ (h.mp ⟨fault, rfl⟩)

theorem warn (warning : Warning) : (warn warning).FailsIff False := by
  intro warnings
  refine iff_of_false ?_ not_false
  rintro ⟨fault, after, h⟩
  cases h

theorem forM_warn (warnings : List Warning) :
    FailsIff (warnings.forM ProviderDocs.warn) False := by
  induction warnings with
  | nil => exact pure ()
  | cons warning rest ih =>
    show FailsIff (ProviderDocs.warn warning >>= fun _ => rest.forM ProviderDocs.warn) False
    exact ((warn warning).bind fun _ => ih).congr or_self_iff

end FailsIff

/-! ### Values -/

theorem exists_result_eq_ok (h : report.result.1.isOk = true) :
    ∃ value, report.result.1 = .ok value := by
  cases hr : report.result.1 with
  | ok value => exact ⟨value, rfl⟩
  | error fault =>
    rw [hr] at h
    exact absurd h Bool.false_ne_true

/-- A report comes to a value, whatever warnings were collected before it and on the way. -/
def Yields (report : Report α) (value : α) : Prop :=
  ∃ warnings after, report.run warnings = .ok value after

theorem yields_of_result {value : α} (h : report.result.1 = .ok value) : report.Yields value := by
  unfold result at h
  cases hr : report.run [] with
  | ok found after =>
    rw [hr] at h
    cases h
    exact ⟨[], after, hr⟩
  | error fault after =>
    rw [hr] at h
    cases h

/-- Two steps come to what the second comes to after the first. -/
theorem yields_bind {next : α → Report β} {value : β} (h : (report >>= next).Yields value) :
    ∃ first, report.Yields first ∧ (next first).Yields value := by
  obtain ⟨warnings, after, h⟩ := h
  rw [run_bind] at h
  cases hr : report.run warnings with
  | ok first between =>
    rw [hr] at h
    exact ⟨first, ⟨warnings, between, hr⟩, between, after, h⟩
  | error fault between =>
    rw [hr] at h
    cases h

theorem yields_pure {value found : α} (h : Yields (pure value) found) : found = value := by
  obtain ⟨warnings, after, h⟩ := h
  cases h
  rfl

theorem yields_ofExcept {result : Except Fault α} {value : α}
    (h : (Report.ofExcept result).Yields value) : result = .ok value := by
  obtain ⟨warnings, after, h⟩ := h
  cases result with
  | ok found =>
    cases h
    rfl
  | error fault => cases h

theorem not_yields_throw {fault : Fault} {value : α} : ¬Yields (throw fault) value := by
  rintro ⟨warnings, after, h⟩
  cases h

/-! ### Two reports -/

/-- Whatever value one report comes to, the other one comes to it as well, with the same
warnings. -/
def Entails (report other : Report α) : Prop :=
  ∀ warnings value after, report.run warnings = .ok value after →
    other.run warnings = .ok value after

namespace Entails

variable {other : Report α}

theorem refl (report : Report α) : report.Entails report :=
  fun _ _ _ h => h

theorem bind {next next' : α → Report β} (h : report.Entails other)
    (hn : ∀ value, (next value).Entails (next' value)) :
    Entails (report >>= next) (other >>= next') := by
  intro warnings value after hr
  rw [run_bind] at hr ⊢
  cases hw : report.run warnings with
  | ok first between =>
    rw [hw] at hr
    rw [h warnings first between hw]
    exact hn first between value after hr
  | error fault between =>
    rw [hw] at hr
    cases hr

/-- A step that collects no warnings may be left out, if its value is not needed. -/
theorem ofExcept_bind {result : Except Fault β} {next : β → Report α}
    (hn : ∀ value, (next value).Entails other) :
    Entails (Report.ofExcept result >>= next) other := by
  intro warnings value after hr
  rw [run_bind] at hr
  cases result with
  | ok first => exact hn first warnings value after hr
  | error fault => cases hr

theorem result_eq (h : report.Entails other) {value : α} (hr : report.result.1 = .ok value) :
    other.result = report.result := by
  unfold result at hr ⊢
  cases hw : report.run [] with
  | ok found after => rw [h [] found after hw]
  | error fault after =>
    rw [hw] at hr
    cases hr

end Entails

/-! ### Warnings -/

/-- From whatever was collected before it, a report comes to an outcome and adds some warnings. -/
def ComesTo (report : Report α) (outcome : Except Fault α) (added : List Warning) : Prop :=
  ∀ before, report.run before =
    match outcome with
    | .ok value => .ok value (before ++ added)
    | .error fault => .error fault (before ++ added)

namespace ComesTo

variable {outcome : Except Fault α} {added : List Warning}

theorem result_eq (h : report.ComesTo outcome added) : report.result = (outcome, added) := by
  unfold result
  rw [h []]
  cases outcome <;> rfl

theorem pure (value : α) : ComesTo (pure value) (.ok value) [] := by
  intro before
  rw [List.append_nil]
  rfl

theorem throw (fault : Fault) : ComesTo (throw fault : Report α) (.error fault) [] := by
  intro before
  rw [List.append_nil]
  rfl

theorem warn (warning : Warning) : (warn warning).ComesTo (.ok ()) [warning] :=
  fun _ => rfl

theorem ofExcept (outcome : Except Fault α) : (Report.ofExcept outcome).ComesTo outcome [] := by
  cases outcome with
  | ok value => exact pure value
  | error fault => exact throw fault

/-- The second of two steps adds its warnings to those of the first. -/
theorem bind {value : α} {next : α → Report β} {last : Except Fault β} {later : List Warning}
    (h : report.ComesTo (.ok value) added) (hn : (next value).ComesTo last later) :
    (report >>= next).ComesTo last (added ++ later) := by
  intro before
  rw [run_bind, h before, ← List.append_assoc]
  exact hn (before ++ added)

/-- Nothing is done after a fault. -/
theorem bind_error {fault : Fault} {next : α → Report β} (h : report.ComesTo (.error fault) added) :
    (report >>= next).ComesTo (.error fault) added := by
  intro before
  rw [run_bind, h before]

theorem forM_warn (warnings : List Warning) :
    ComesTo (warnings.forM ProviderDocs.warn) (.ok ()) warnings := by
  induction warnings with
  | nil => exact pure ()
  | cons warning rest ih => exact (warn warning).bind ih

end ComesTo

/-- A report that comes to a value has added some warnings to those before it. -/
def Adds (report : Report α) (added : List Warning) : Prop :=
  ∀ before value after, report.run before = .ok value after → after = before ++ added

namespace Adds

variable {added later : List Warning}

theorem pure (value : α) : Adds (pure value) [] := by
  intro before _ after h
  cases h
  exact (List.append_nil _).symm

theorem forM_warn (warnings : List Warning) : Adds (warnings.forM ProviderDocs.warn) warnings := by
  intro before _ after h
  rw [ComesTo.forM_warn warnings before] at h
  cases h
  rfl

/-- The second of two steps adds its warnings to those of the first. -/
theorem bind {next : α → Report β} (h : report.Adds added) (hn : ∀ value, (next value).Adds later) :
    (report >>= next).Adds (added ++ later) := by
  intro before value after hr
  rw [run_bind] at hr
  cases hw : report.run before with
  | ok first between =>
    rw [hw] at hr
    rw [hn first between value after hr, h before first between hw, List.append_assoc]
  | error fault between =>
    rw [hw] at hr
    cases hr

/-- A step without warnings adds nothing to those of the next one. -/
theorem ofExcept_bind {outcome : Except Fault α} {next : α → Report β}
    (hn : ∀ value, (next value).Adds added) : (Report.ofExcept outcome >>= next).Adds added := by
  intro before value after hr
  rw [run_bind] at hr
  cases outcome with
  | ok first => exact hn first before value after hr
  | error fault => cases hr

/-- A last step without warnings adds nothing to those before it. -/
theorem bind_pure {next : α → β} (h : report.Adds added) :
    (report >>= fun value => Pure.pure (next value)).Adds added := by
  have last := h.bind fun value => pure (next value)
  rwa [List.append_nil] at last

end Adds

/-- Whatever was collected before it, a report comes to the same outcome and adds the same warnings,
all of which satisfy `P`. -/
def Collects (report : Report α) (P : Warning → Prop) : Prop :=
  ∃ outcome added, report.ComesTo outcome added ∧ ∀ warning ∈ added, P warning

namespace Collects

variable {P : Warning → Prop}

theorem pure (value : α) : Collects (pure value) P :=
  ⟨_, _, .pure value, by simp⟩

/-- What stands after a fault is not done. -/
theorem throw_bind (fault : Fault) (next : α → Report β) :
    ((throw fault : Report α) >>= next).Collects P :=
  ⟨_, _, (ComesTo.throw fault).bind_error, by simp⟩

theorem throw (fault : Fault) : Collects (throw fault : Report α) P :=
  ⟨_, _, .throw fault, by simp⟩

theorem warn {warning : Warning} (h : P warning) : (warn warning).Collects P :=
  ⟨_, _, .warn warning, by simpa using h⟩

theorem ofExcept (outcome : Except Fault α) : (Report.ofExcept outcome).Collects P :=
  ⟨_, _, .ofExcept outcome, by simp⟩

theorem forM_warn {warnings : List Warning} (h : ∀ warning ∈ warnings, P warning) :
    Collects (warnings.forM ProviderDocs.warn) P :=
  ⟨_, _, .forM_warn warnings, h⟩

theorem bind {next : α → Report β} (h : report.Collects P) (hn : ∀ value, (next value).Collects P) :
    (report >>= next).Collects P := by
  obtain ⟨outcome, added, first, holds⟩ := h
  cases outcome with
  | ok value =>
    obtain ⟨last, later, second, holds'⟩ := hn value
    exact ⟨last, _, first.bind second, List.forall_mem_append.mpr ⟨holds, holds'⟩⟩
  | error fault => exact ⟨_, added, first.bind_error, holds⟩

theorem imp {Q : Warning → Prop} (h : report.Collects P) (hpq : ∀ warning, P warning → Q warning) :
    report.Collects Q := by
  obtain ⟨outcome, added, hc, holds⟩ := h
  exact ⟨outcome, added, hc, fun warning hw => hpq warning (holds warning hw)⟩

theorem comesTo (h : report.Collects P) : report.ComesTo report.result.1 report.result.2 := by
  obtain ⟨outcome, added, hc, -⟩ := h
  rw [hc.result_eq]
  exact hc

theorem forall_mem (h : report.Collects P) : ∀ warning ∈ report.result.2, P warning := by
  obtain ⟨outcome, added, hc, holds⟩ := h
  rw [hc.result_eq]
  exact holds

/-- Two steps come to what the second comes to after the first, with the warnings of both. -/
theorem result_bind {next : α → Report β} (h : report.Collects P)
    (hn : ∀ value, (next value).Collects P) :
    (report >>= next).result =
      match report.result with
      | (.ok value, added) => ((next value).result.1, added ++ (next value).result.2)
      | (.error fault, added) => (.error fault, added) := by
  have first : report.ComesTo report.result.1 report.result.2 := h.comesTo
  generalize report.result = result at first ⊢
  obtain ⟨outcome, added⟩ := result
  cases outcome with
  | ok value => exact (first.bind (hn value).comesTo).result_eq
  | error fault => exact first.bind_error.result_eq

theorem result_fst_bind {next : α → Report β} (h : report.Collects P)
    (hn : ∀ value, (next value).Collects P) :
    (report >>= next).result.1 = report.result.1 >>= fun value => (next value).result.1 := by
  rw [h.result_bind hn]
  rcases report.result with ⟨_ | _, added⟩ <;> rfl

/-- If two steps come to a value, so do both of them. -/
theorem exists_of_result_bind {next : α → Report β} {value : β} (h : report.Collects P)
    (hn : ∀ value, (next value).Collects P) (hr : (report >>= next).result.1 = .ok value) :
    ∃ first, report.result.1 = .ok first ∧ (next first).result.1 = .ok value := by
  rw [h.result_fst_bind hn] at hr
  exact bind_eq_ok_iff.mp hr

end Collects

end Report

end ProviderDocs
