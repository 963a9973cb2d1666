import ProviderDocs.Proofs.Snippet.Lines
import ProviderDocs.Proofs.Snippet.Place

/-!
# Indentation and bracket depth

A snippet is read as a whole, with all that encloses the end of a line carried to the next one
(`readingAfter`): the brackets outside make its depth, and an operator outside opens a heredoc.  The
formatter carries less from line to line, no string literal and no interpolation, reads a line on
which a comment is closed as a part of the comment, and takes an operator in a comment for one.
Both readings are the same below a line exactly if the line stands alone
(`reading_readLine_eq_iff`), and so they are below lines that each stand alone
(`reading_stateAfter`).  There every line outside comments and heredocs is indented by its depth,
less the brackets that it begins with closing (`indentation_eq_depth`).
-/

namespace ProviderDocs.Snippet

open Text (ink inksOf)

/-! ### Reading a snippet as a whole -/

/-- The marker of the heredoc that a text opens behind a place, with its operator outside. -/
def Place.heredoc? : Place → Text → Option Text
  | _, [] => none
  | p, c :: rest =>
    let here :=
      if p.isOutside = true ∧ c = '<' ∧ rest.head? = some '<' then markerAfter? rest.tail else none
    here.or ((p.next c).heredoc? rest)

/-- What is known between two lines of a snippet. -/
structure Reading where
  /-- The brackets open outside of all enclosures, never less than none. -/
  depth : Nat := 0
  /-- What encloses the end of the line above, the innermost first. -/
  enclosures : List Enclosure := []
  /-- The marker of the heredoc that is open. -/
  heredoc : Option Text := none
deriving DecidableEq, Repr

namespace Reading

/-- The place at which the next line begins. -/
def place (r : Reading) : Place :=
  .within r.enclosures

/-- What is known below a line. -/
def next (r : Reading) (line : Text) : Reading :=
  let t := lineText line
  match r.heredoc with
  | some marker => { r with heredoc := if t = marker then none else some marker }
  | none =>
    { depth := (r.depth + r.place.net t).toNat
      enclosures := (r.place.after t).enclosures
      heredoc := r.place.heredoc? t }

theorem next_of_heredoc {r : Reading} {marker : Text} (h : r.heredoc = some marker) (line : Text) :
    r.next line = { r with heredoc := if lineText line = marker then none else some marker } := by
  simp only [next, h]

theorem next_of_code {r : Reading} (h : r.heredoc = none) (line : Text) :
    r.next line =
      { depth := (r.depth + r.place.net (lineText line)).toNat
        enclosures := (r.place.after (lineText line)).enclosures
        heredoc := r.place.heredoc? (lineText line) } := by
  simp only [next, h]

end Reading

/-- What is known below some lines. -/
def readingAfter (r : Reading) (lines : List Text) : Reading :=
  lines.foldl Reading.next r

/-! ### Lines that stand alone -/

/-- A line outside heredocs can be read on its own: no string literal and no interpolation goes on
below it, its heredoc operator, if it ends in one, stands outside, and nothing counts on a line on
which a comment is closed. -/
def StandsAlone (r : Reading) (line : Text) : Prop :=
  r.heredoc = none →
    if r.enclosures = [.comment] then
      closesComment (lineText line) = true → r.next line = { r with enclosures := [] }
    else
      ((r.next line).enclosures = [] ∨ (r.next line).enclosures = [.comment]) ∧
        (r.next line).heredoc = heredocMarker? (lineText line)

/-- Lines stand alone, each below those above it. -/
def EachStandsAlone : Reading → List Text → Prop
  | _, [] => True
  | r, line :: rest => StandsAlone r line ∧ EachStandsAlone (r.next line) rest

instance (r : Reading) (line : Text) : Decidable (StandsAlone r line) :=
  inferInstanceAs (Decidable (_ → ite _ _ _))

instance decidableEachStandsAlone : (r : Reading) → (lines : List Text) →
    Decidable (EachStandsAlone r lines)
  | _, [] => isTrue trivial
  | r, line :: rest =>
    have := decidableEachStandsAlone (r.next line) rest
    inferInstanceAs (Decidable (_ ∧ _))

/-! ### Both readings -/

/-- What the formatter carries from line to line, as a reading of the whole. -/
def State.reading (state : State) : Reading :=
  { depth := state.depth
    enclosures := if state.inComment then [.comment] else []
    heredoc := state.heredoc }

theorem State.enclosures_reading (state : State) :
    state.reading.enclosures = [] ∨ state.reading.enclosures = [.comment] := by
  cases hc : state.inComment <;> simp [State.reading, hc]

namespace Place

/-- A block comment goes on behind a text from a place in it, read with the star before the place if
there is one. -/
def StaysInComment (outer : List Enclosure) (p : Place) (t : Text) : Prop :=
  p = within (.comment :: outer) ∧ closesComment t = false ∨
    p = star outer ∧ closesComment ('*' :: t) = false

variable {outer : List Enclosure} {p : Place} {t : Text}

theorem staysInComment_nextInComment {c : Char} {rest : Text}
    (h : closesComment (c :: rest) = false) :
    StaysInComment outer (nextInComment outer c) rest := by
  unfold nextInComment
  split_ifs with star
  · exact .inr ⟨rfl, star ▸ h⟩
  · exact .inl ⟨rfl, (Bool.or_eq_false_iff.mp h).2⟩

theorem StaysInComment.next {c : Char} {rest : Text} (h : StaysInComment outer p (c :: rest)) :
    StaysInComment outer (p.next c) rest := by
  rcases h with ⟨rfl, closes⟩ | ⟨rfl, closes⟩
  · exact staysInComment_nextInComment closes
  · obtain ⟨first, later⟩ := Bool.or_eq_false_iff.mp closes
    have noSlash : c ≠ '/' := by simpa using first
    rw [Place.next, if_neg noSlash]
    exact staysInComment_nextInComment later

theorem StaysInComment.isOutside (h : StaysInComment outer p t) : p.isOutside = false := by
  rcases h with ⟨rfl, -⟩ | ⟨rfl, -⟩ <;> rfl

/-- A comment that is not closed on a line encloses the rest of it. -/
theorem StaysInComment.reads (h : StaysInComment outer p t) :
    p.net t = 0 ∧ (p.after t).enclosures = .comment :: outer ∧ p.heredoc? t = none := by
  induction t generalizing p with
  | nil => rcases h with ⟨rfl, -⟩ | ⟨rfl, -⟩ <;> exact ⟨rfl, rfl, rfl⟩
  | cons c rest ih =>
    obtain ⟨net, enclosed, heredoc⟩ := ih h.next
    refine ⟨?_, enclosed, ?_⟩
    · rw [Place.net, h.isOutside, net]
      rfl
    · rw [Place.heredoc?, h.isOutside, heredoc]
      simp

end Place

section ReadLine

variable {state : State} {line : Text}

theorem reading_readLine_of_inComment (hh : state.heredoc = none) (ht : lineText line ≠ [])
    (hc : state.inComment = true) :
    (state.readLine line).1.reading = state.reading.next line ↔
      StandsAlone state.reading line := by
  have enclosures : state.reading.enclosures = [.comment] := by rw [State.reading, hc, if_pos rfl]
  have place : state.reading.place = .within [.comment] := by rw [Reading.place, enclosures]
  have noHeredoc : state.reading.heredoc = none := hh
  rw [State.readLine_of_inComment hh ht hc, StandsAlone, if_pos enclosures]
  cases closes : closesComment (lineText line) with
  | true => exact ⟨fun same _ _ => same.symm, fun alone => (alone noHeredoc rfl).symm⟩
  | false =>
    have stays : Place.StaysInComment [] (.within [.comment]) (lineText line) := .inl ⟨rfl, closes⟩
    obtain ⟨net, ends, operator⟩ := stays.reads
    refine iff_of_true ?_ fun _ h => absurd h (by decide)
    rw [Reading.next_of_code noHeredoc, place, net, ends, operator]
    simp [State.reading, hh]

theorem reading_readLine_of_code (hh : state.heredoc = none) (ht : lineText line ≠ [])
    (hc : state.inComment = false) :
    (state.readLine line).1.reading = state.reading.next line ↔
      StandsAlone state.reading line := by
  have enclosures : state.reading.enclosures = [] := by rw [State.reading, hc, if_neg (by decide)]
  have place : state.reading.place = .within [] := by rw [Reading.place, enclosures]
  have noHeredoc : state.reading.heredoc = none := hh
  have operator : (state.readLine line).1.reading.heredoc = heredocMarker? (lineText line) := by
    rw [State.readLine_of_code hh ht hc]
    rfl
  rw [StandsAlone, enclosures, if_neg (by decide)]
  constructor
  · intro same _
    rw [← same]
    exact ⟨State.enclosures_reading _, operator⟩
  · intro alone
    obtain ⟨ends, opens⟩ := alone noHeredoc
    rw [Reading.next_of_code noHeredoc, place] at ends opens ⊢
    dsimp only at ends opens
    rw [State.readLine_of_code hh ht hc, opens, balance, balanceFrom_eq]
    rcases ends with ends | ends <;> rw [ends] <;> rfl

/-- The formatter knows the same below a line as is known of the whole exactly if the line stands
alone. -/
theorem reading_readLine_eq_iff :
    (state.readLine line).1.reading = state.reading.next line ↔
      StandsAlone state.reading line := by
  cases hh : state.heredoc with
  | some marker =>
    have inBody : state.reading.heredoc = some marker := hh
    refine iff_of_true ?_ fun none => ?_
    · rw [State.readLine_of_heredoc hh, Reading.next_of_heredoc inBody]
      rfl
    · rw [inBody] at none
      exact absurd none (by simp)
  | none =>
    by_cases ht : lineText line = []
    · have noHeredoc : state.reading.heredoc = none := hh
      have blank : state.reading.next line = state.reading := by
        rw [Reading.next_of_code noHeredoc, ht]
        simp [Reading.place, Place.net, Place.after, Place.heredoc?, Place.enclosures,
          State.reading, hh]
      rw [State.readLine_of_blank hh ht, StandsAlone, blank, ht]
      refine iff_of_true rfl fun _ => ?_
      split_ifs
      · exact fun closes => absurd closes (by decide)
      · exact ⟨state.enclosures_reading, hh⟩
    · cases hc : state.inComment with
      | true => exact reading_readLine_of_inComment hh ht hc
      | false => exact reading_readLine_of_code hh ht hc

end ReadLine

/-- The formatter reads lines that stand alone as they are read in the whole. -/
theorem reading_stateAfter {state : State} {lines : List Text}
    (alone : EachStandsAlone state.reading lines) :
    (stateAfter state lines).reading = readingAfter state.reading lines := by
  induction lines generalizing state with
  | nil => rfl
  | cons line rest ih =>
    obtain ⟨first, later⟩ := alone
    have step := reading_readLine_eq_iff.mpr first
    rw [← step] at later
    calc (stateAfter state (line :: rest)).reading
      _ = (stateAfter (state.readLine line).1 rest).reading := rfl
      _ = readingAfter (state.readLine line).1.reading rest := ih later
      _ = readingAfter state.reading (line :: rest) := by rw [step]; rfl

/-! ### Indentation -/

/-- Unless it begins in a comment or in a heredoc, a line of a formatted snippet is indented by two
spaces for each bracket that is open below some lines, less the brackets that it begins with
closing. -/
def Indented (before : List Text) (out : Text) : Prop :=
  (readingAfter {} before).heredoc = none →
    (readingAfter {} before).enclosures.head? ≠ some .comment →
      out = indentation ((readingAfter {} before).depth - leadingClosers (lineText out)) ++
        lineText out

instance (before : List Text) (out : Text) : Decidable (Indented before out) :=
  inferInstanceAs (Decidable (_ → _ → _))

/-- A line that is written for code is indented by the depth, less the brackets that it begins with
closing. -/
theorem write_ofCode_eq {t : Text} (ht : Text.Trimmed t) (hn : t ≠ []) (depth width : Nat) :
    let out := (Line.ofCode (depth - leadingClosers t) t).write width
    out = indentation (depth - leadingClosers (lineText out)) ++ lineText out := by
  intro out
  obtain ⟨u, hu, hut, hun, alike⟩ := exists_write_ofCode ht hn (depth - leadingClosers t) width
  have text : lineText out = u := by
    rw [show out = _ from hu, lineText_indentation_append hut]
  rw [text, alike.closers]
  exact hu

theorem indented_write {before : List Text} {line : Text} (full : Text.isBlank line = false)
    (alone : EachStandsAlone {} before) (width : Nat) :
    Indented before (((stateAfter {} before).readLine line).2.write width) := by
  have same : (stateAfter {} before).reading = readingAfter ({} : State).reading before :=
    reading_stateAfter alone
  rw [show ({} : State).reading = {} from rfl] at same
  intro noHeredoc noComment
  rw [← same] at noHeredoc noComment ⊢
  generalize stateAfter {} before = state at *
  have hh : state.heredoc = none := noHeredoc
  have hc : state.inComment = false := by
    by_contra inComment
    rw [State.reading, if_pos (by simpa using inComment)] at noComment
    exact noComment rfl
  have ht : lineText line ≠ [] := by
    rw [lineText_eq_trim, ne_eq, Text.trim_eq_nil_iff, full]
    decide
  rw [State.readLine_of_code hh ht hc]
  exact write_ofCode_eq (trimmed_lineText line) ht state.depth width

/-- Every line of a formatted snippet with something on it stands for a line of the snippet, and it
is indented by the depth of the snippet there, if each line above can be read on its own. -/
theorem indentation_eq_depth {snippet out : Text} {above below : List Text}
    (h : Text.splitLines (format snippet) = above ++ out :: below)
    (full : Text.isBlank out = false) :
    ∃ before line after, Text.splitLines snippet = before ++ line :: after ∧
      inksOf above = inksOf before ∧ ink out = ink line ∧ inksOf below = inksOf after ∧
      (EachStandsAlone {} before → Indented before out) := by
  obtain ⟨before, line, after, width, lines, hline, habove, hout, hbelow, rfl⟩ :=
    exists_line_of_format h full
  exact ⟨before, line, after, lines, habove, hout, hbelow, fun alone =>
    indented_write hline alone width⟩

/-- Lines whose brackets, but for two, stand in a comment, in a string literal, behind a hash and in
a heredoc. -/
def twoOpen : List Text :=
  ["/* \x7b".toList, " ( */".toList, "a \"x\x7b\" \x7b # ]".toList, "x = [ <<EOF".toList,
    "\x7d\x7d".toList, "EOF".toList]

/-- A line that begins with a closing bracket, and ends with one that is opened behind an
interpolation. -/
def reopening : Text :=
  "]  .y[\"$\x7bf(\"\x7d\")\x7d\"] (".toList

/-- Of the two brackets that are open above it, the line closes one. -/
theorem reopening_indented :
    let snippet := Text.joinLines (twoOpen ++ ('\t' :: reopening) :: ["b=1".toList])
    let above := (Text.splitLines (format snippet)).take 6
    Text.splitLines (format snippet) = above ++ (' ' :: ' ' :: reopening) :: ["    b = 1".toList] ∧
      Text.isBlank (' ' :: ' ' :: reopening) = false ∧
      ∃ before line after, Text.splitLines snippet = before ++ line :: after ∧
        inksOf above = inksOf before ∧ ink (' ' :: ' ' :: reopening) = ink line ∧
        inksOf ["    b = 1".toList] = inksOf after ∧ EachStandsAlone {} before ∧
        (readingAfter {} before).depth = 2 ∧ Indented before (' ' :: ' ' :: reopening) := by
  intro snippet above
  have lines : Text.splitLines (format snippet) =
      above ++ (' ' :: ' ' :: reopening) :: ["    b = 1".toList] := by decide +kernel
  have full : Text.isBlank (' ' :: ' ' :: reopening) = false := by decide +kernel
  have alone : EachStandsAlone {} twoOpen := by decide +kernel
  obtain ⟨before, line, after, source, habove, hline, hbelow, indented⟩ :=
    indentation_eq_depth lines full
  -- The line is the seventh, since no line above it is blank.
  obtain ⟨rfl, -, -⟩ : twoOpen = before ∧ _ ∧ _ := by
    refine append_cons_inj_of_countP (p := fun line => !Text.isBlank line)
      (a := '\t' :: reopening) (s := ["b=1".toList]) (Eq.trans ?_ source) ?_ ?_ ?_
    · decide +kernel
    · decide +kernel
    · rw [← Text.isEmpty_ink, ← hline]
      decide +kernel
    · rw [countP_not_isBlank, countP_not_isBlank, ← habove]
      decide +kernel
  exact ⟨lines, full, twoOpen, line, after, source, habove, hline, hbelow, alone,
    by decide +kernel, indented alone⟩

/-- A bracket behind the end of a comment. -/
def bracketBehindComment : List Text :=
  ["/*".toList, "*/ a \x7b".toList]

/-- Brackets in an interpolation over several lines. -/
def bracketsInInterpolation : List Text :=
  ["a \x7b".toList, "x = \"$\x7bf(".toList, "y".toList, ")\x7d\"".toList]

/-- An operator in a comment. -/
def operatorInComment : List Text :=
  ["a \x7b".toList, "# <<EOF".toList]

/-- Below some lines that leave one bracket open, a line is not indented. -/
def Misleads (before : List Text) : Prop :=
  (readingAfter {} before).depth = 1 ∧
    ∃ out, StandsFor (Text.joinLines (before ++ "b = 1".toList :: ["\x7d".toList])) before
      "b = 1".toList ["\x7d".toList] out ∧ ¬ Indented before out

/-- Lines mislead if the line below them stays where it is. -/
theorem misleads_of_splitLines_eq {before : List Text} (above : List Text)
    (lines : Text.splitLines
        (format (Text.joinLines (before ++ "b = 1".toList :: ["\x7d".toList]))) =
      above ++ "b = 1".toList :: ["\x7d".toList])
    (shown : inksOf above = inksOf before) (depth : (readingAfter {} before).depth = 1)
    (other : ¬ Indented before "b = 1".toList) : Misleads before :=
  ⟨depth, _, ⟨above, _, lines, shown, rfl, rfl⟩, other⟩

/-- Lines that do not stand alone may mislead, in each of three ways. -/
theorem not_indented :
    Misleads bracketBehindComment ∧ Misleads bracketsInInterpolation ∧
      Misleads operatorInComment := by
  refine ⟨?_, ?_, ?_⟩
  · exact misleads_of_splitLines_eq bracketBehindComment (by decide +kernel) rfl
      (by decide +kernel) (by decide +kernel)
  · exact misleads_of_splitLines_eq
      ["a \x7b".toList, "  x = \"$\x7bf(".toList, "  y".toList, ")\x7d\"".toList]
      (by decide +kernel) (by decide +kernel) (by decide +kernel) (by decide +kernel)
  · exact misleads_of_splitLines_eq ["a \x7b".toList, "  # <<EOF".toList]
      (by decide +kernel) (by decide +kernel) (by decide +kernel) (by decide +kernel)

end ProviderDocs.Snippet
