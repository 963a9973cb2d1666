import ProviderDocs.Proofs.Text.Lines
import ProviderDocs.Storage.Path

/-!
# Where paths lead

The pieces of a path are followed one after the other: a name leads into the directory before it,
two dots lead out of that directory, and nothing else leads anywhere (`Path.walk`).  A path of names
alone is confined (`Path.IsConfined`): from wherever it is followed, it leads to a place further in
(`walk_of_isName`), and to follow it from a directory is to follow the directory first
(`walk_join`).
-/

namespace ProviderDocs.Path

/-- A piece of a path that leads into the directory before it. -/
def IsName (piece : Text) : Prop :=
  piece ≠ [] ∧ piece ≠ ['.'] ∧ piece ≠ ['.', '.']

/-- Every piece of a path is a name. -/
def IsConfined (path : Text) : Prop :=
  ∀ piece ∈ pieces path, IsName piece

/-- The place that one piece leads to from a place, as a list of names from the top. -/
def advance (place : List Text) (piece : Text) : List Text :=
  if isIdle piece then place
  else if piece = ['.', '.'] then place.dropLast
  else place ++ [piece]

/-- The place that pieces lead to from a place. -/
def walk (place pieces : List Text) : List Text :=
  pieces.foldl advance place

theorem walk_append (place first second : List Text) :
    walk place (first ++ second) = walk (walk place first) second :=
  List.foldl_append

/-- Names lead further in, one after the other. -/
theorem walk_of_isName {names : List Text} (h : ∀ name ∈ names, IsName name) (place : List Text) :
    walk place names = place ++ names := by
  induction names generalizing place with
  | nil => simp [walk]
  | cons name rest ih =>
    obtain ⟨hn, hd, hdd⟩ := h name List.mem_cons_self
    have step : advance place name = place ++ [name] := by simp [advance, isIdle, hn, hd, hdd]
    have := ih (fun other ho => h other (List.mem_cons_of_mem _ ho)) (place ++ [name])
    rw [walk] at this ⊢
    rw [List.foldl_cons, step, this]
    simp

/-! ### Paths below a directory -/

theorem pieces_append_slash (first second : Text) :
    pieces (first ++ '/' :: second) = pieces first ++ pieces second :=
  Text.splitOn_append_separator '/' first second

/-- A confined path does not start at the top. -/
theorem IsConfined.isAbsolute_eq_false {path : Text} (h : IsConfined path) :
    isAbsolute path = false := by
  cases path with
  | nil => rfl
  | cons c rest =>
    by_cases hc : c = '/'
    · have := h [] (by simp [pieces, Text.splitOn, hc])
      exact absurd rfl this.1
    · simp [isAbsolute, hc]

theorem isAbsolute_join {directory path : Text} (h : isAbsolute path = false) :
    isAbsolute (join directory path) = isAbsolute directory := by
  cases directory with
  | nil =>
    rw [join, if_neg (by simp [h])]
    exact h
  | cons c rest =>
    rw [join, if_neg (by simp [h])]
    split <;> simp [isAbsolute]

/-- What stands behind a slash at the end of a path leads nowhere. -/
theorem walk_append_slash (place : List Text) (path : Text) :
    walk place (pieces (path ++ ['/'])) = walk place (pieces path) := by
  rw [pieces_append_slash, walk_append]
  rfl

/-- To follow a path below a directory is to follow the directory first. -/
theorem walk_join {directory path : Text} (h : isAbsolute path = false) (place : List Text) :
    walk place (pieces (join directory path)) =
      walk (walk place (pieces directory)) (pieces path) := by
  rw [join, if_neg (by simp [h])]
  rcases List.eq_nil_or_concat directory with rfl | ⟨start, c, rfl⟩
  · rfl
  · by_cases hc : c = '/'
    · subst hc
      rw [List.concat_eq_append, if_pos (by simp), walk_append_slash, List.append_assoc,
        List.singleton_append, pieces_append_slash, walk_append]
    · rw [List.concat_eq_append, if_neg (by simp [hc]), List.append_assoc, List.singleton_append,
        pieces_append_slash, walk_append]

end ProviderDocs.Path
