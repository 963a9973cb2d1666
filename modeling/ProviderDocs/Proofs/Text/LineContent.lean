import ProviderDocs.Proofs.Text.Trim
import ProviderDocs.Text.Line

/-!
# Lines with a given text on them

A line says a text and nothing else (`SaysOnly`) when there are only spaces and tabs around the text
and at most one carriage return at the end of the line.  For a text without white space around it
this is what the content of the line tells (`lineContent_eq_iff`), and a line that says nothing is
an empty line (`isEmptyLine_iff`).
-/

namespace ProviderDocs.Text

/-- A line has nothing on it but a text, with spaces and tabs around it and at most one carriage
return at the end. -/
def SaysOnly (line content : Text) : Prop :=
  ∃ before after ending, (∀ c ∈ before, isSpaceOrTab c = true) ∧
    (∀ c ∈ after, isSpaceOrTab c = true) ∧ (ending = [] ∨ ending = ['\r']) ∧
    line = before ++ (content ++ (after ++ ending))

theorem saysOnly_self (t : Text) : t.SaysOnly t :=
  ⟨[], [], [], by simp, by simp, .inl rfl, by simp⟩

/-! ### The return at the end -/

/-- A carriage return is dropped at the end of the last of several parts. -/
theorem dropReturn_append (start : Text) {rest : Text} (hn : rest ≠ []) :
    dropReturn (start ++ rest) = start ++ dropReturn rest := by
  unfold dropReturn
  rw [List.getLast?_append_of_ne_nil _ hn]
  split_ifs
  · exact List.dropLast_append_of_ne_nil hn
  · rfl

theorem dropReturn_eq_self_of_forall {line : Text} (h : ∀ c ∈ line.getLast?, c ≠ '\r') :
    dropReturn line = line :=
  if_neg fun last => h '\r' last rfl

/-- At most one carriage return is dropped. -/
theorem exists_dropReturn_append (line : Text) :
    ∃ ending, (ending = [] ∨ ending = ['\r']) ∧ dropReturn line ++ ending = line := by
  unfold dropReturn
  split_ifs with h
  · exact ⟨['\r'], .inr rfl, List.dropLast_append_getLast? '\r' h⟩
  · exact ⟨[], .inl rfl, List.append_nil line⟩

theorem dropReturn_append_spaces {t gap ending : Text} (ht : ∀ c ∈ t.getLast?, c ≠ '\r')
    (hg : ∀ c ∈ gap, isSpaceOrTab c = true) (he : ending = [] ∨ ending = ['\r']) :
    dropReturn (t ++ (gap ++ ending)) = t ++ gap := by
  rcases he with rfl | rfl
  · rw [List.append_nil]
    apply dropReturn_eq_self_of_forall
    intro c hc
    rcases List.eq_nil_or_concat gap with rfl | ⟨start, d, rfl⟩
    · exact ht c (by simpa using hc)
    · obtain rfl : d = c := by simpa using hc
      rintro rfl
      exact absurd (hg '\r' (by simp)) (by decide)
  · rw [← List.append_assoc, dropReturn_append _ (List.cons_ne_nil _ _)]
    exact List.append_nil _

/-! ### The content of a line -/

/-- What a line says is its content, if there is no white space around it. -/
theorem lineContent_eq_iff {line content : Text} (h : Trimmed content) :
    lineContent line = content ↔ line.SaysOnly content := by
  constructor
  · rintro rfl
    obtain ⟨ending, he, whole⟩ := exists_dropReturn_append line
    obtain ⟨before, after, hb, ha, parts⟩ := exists_trimWhere_append isSpaceOrTab (dropReturn line)
    refine ⟨before, after, ending, hb, ha, he, ?_⟩
    calc line = dropReturn line ++ ending := whole.symm
      _ = before ++ (lineContent line ++ after) ++ ending := by rw [lineContent, parts]
      _ = before ++ (lineContent line ++ (after ++ ending)) := by simp
  · rintro ⟨before, after, ending, hb, ha, he, rfl⟩
    have last : ∀ c ∈ (before ++ content).getLast?, c ≠ '\r' := by
      rintro c hc rfl
      rcases eq_or_ne content [] with rfl | hn
      · rw [List.append_nil] at hc
        exact absurd (hb _ (List.mem_of_mem_getLast? hc)) (by decide)
      · rw [List.getLast?_append_of_ne_nil _ hn] at hc
        exact absurd (h.last _ hc) (by decide)
    rw [lineContent, ← List.append_assoc, dropReturn_append_spaces last ha he, List.append_assoc,
      trimWhere_append_left _ hb, trimWhere_append_right _ ha,
      h.trimWhere_eq fun _ => isSpace_of_isSpaceOrTab]

theorem isEmptyLine_iff {line : Text} : isEmptyLine line = true ↔ line.SaysOnly [] := by
  rw [isEmptyLine, List.all_eq_true]
  constructor
  · intro h
    obtain ⟨ending, he, whole⟩ := exists_dropReturn_append line
    exact ⟨dropReturn line, [], ending, h, by simp, he, whole.symm⟩
  · rintro ⟨before, after, ending, hb, ha, he, rfl⟩
    have last : ∀ c ∈ before.getLast?, c ≠ '\r' := by
      rintro c hc rfl
      exact absurd (hb _ (List.mem_of_mem_getLast? hc)) (by decide)
    rw [List.nil_append, dropReturn_append_spaces last ha he]
    exact List.forall_mem_append.mpr ⟨hb, ha⟩

/-- A line says one thing only. -/
theorem SaysOnly.unique {line content content' : Text} (h : line.SaysOnly content)
    (h' : line.SaysOnly content') (ht : Trimmed content) (ht' : Trimmed content') :
    content = content' :=
  ((lineContent_eq_iff ht).mpr h).symm.trans ((lineContent_eq_iff ht').mpr h')

end ProviderDocs.Text
