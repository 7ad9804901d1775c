import SqlTree.Token.Lexer

/-!
# Gaps

What may stand between two tokens: white space, comments that run to the end of their line, and
comments that run to their first end mark. Both kinds of comment may also run to the end of the
text. The reader of gaps takes nothing else.
-/

namespace SqlTree

open Text

/-- A piece of a gap, in front of the rest of a text. -/
inductive GapPiece : (piece rest : List Char) → Prop
  | blank {character : Char} {rest : List Char} (white : isBlank character = true) :
      GapPiece [character] rest
  /-- A line comment, which ends before a newline or with the text. -/
  | line {body rest : List Char} (sameLine : '\n' ∉ body)
      (ends : ∀ next ∈ rest.head?, next = '\n') : GapPiece ('-' :: '-' :: body) rest
  /-- A block comment, which is closed at its first end mark. -/
  | block {body rest : List Char} (inside : ¬ ['*', '/'] <:+: body) :
      GapPiece ('/' :: '*' :: (body ++ ['*', '/'])) rest
  /-- A block comment without an end mark, which runs to the end of the text. -/
  | openBlock {body : List Char} (inside : ¬ ['*', '/'] <:+: body) :
      GapPiece ('/' :: '*' :: body) []

/-- A gap in front of the rest of a text: any number of pieces. -/
inductive IsGap : (gap rest : List Char) → Prop
  | nil {rest : List Char} : IsGap [] rest
  | append {piece gap rest : List Char} (first : GapPiece piece (gap ++ rest))
      (others : IsGap gap rest) : IsGap (piece ++ gap) rest

/-- An end mark inside a longer text is at its start or behind it. -/
theorem endMark_infix_cons {character : Char} {body : List Char} :
    ['*', '/'] <:+: character :: body ↔
      (character = '*' ∧ body.head? = some '/') ∨ ['*', '/'] <:+: body := by
  rw [List.infix_cons_iff, List.cons_prefix_cons, eq_comm]
  cases body with
  | nil => simp
  | cons next body => simp [eq_comm]

/-- What a reader of gaps takes, by the state that it stands in. -/
def GapState.Takes : GapState → (gap rest : List Char) → Prop
  | .between, gap, rest => IsGap gap rest
  | .lineComment, gap, rest => ∃ body others, gap = body ++ others ∧ '\n' ∉ body ∧
      (∀ next ∈ (others ++ rest).head?, next = '\n') ∧ IsGap others rest
  | .blockComment, gap, rest => ∃ body, ¬ ['*', '/'] <:+: body ∧
      ((∃ others, gap = body ++ '*' :: '/' :: others ∧ IsGap others rest) ∨
        (gap = body ∧ rest = []))

section Takes

variable {character : Char} {gap rest : List Char}

theorem IsGap.blank (white : isBlank character = true) (others : IsGap gap rest) :
    IsGap (character :: gap) rest :=
  .append (.blank white) others

/-- A gap opens with a line comment. -/
theorem IsGap.line (taken : GapState.lineComment.Takes gap rest) :
    IsGap ('-' :: '-' :: gap) rest := by
  obtain ⟨body, others, rfl, sameLine, ends, isGap⟩ := taken
  exact .append (.line sameLine ends) isGap

/-- A gap opens with a block comment. -/
theorem IsGap.block (taken : GapState.blockComment.Takes gap rest) :
    IsGap ('/' :: '*' :: gap) rest := by
  obtain ⟨body, inside, ⟨others, rfl, isGap⟩ | ⟨rfl, rfl⟩⟩ := taken
  · have closed := IsGap.append (GapPiece.block inside) isGap
    simpa using closed
  · have opened := IsGap.append (GapPiece.openBlock inside) IsGap.nil
    simpa using opened

/-- A line comment ends before a newline, which is white space. -/
theorem GapState.Takes.newline (isGap : IsGap gap rest) :
    GapState.lineComment.Takes ('\n' :: gap) rest := by
  refine ⟨[], '\n' :: gap, rfl, List.not_mem_nil, ?_, .blank (by decide) isGap⟩
  intro next first
  simpa [eq_comm] using first

theorem GapState.Takes.inLine (other : character ≠ '\n')
    (taken : GapState.lineComment.Takes gap rest) :
    GapState.lineComment.Takes (character :: gap) rest := by
  obtain ⟨body, others, rfl, sameLine, ends, isGap⟩ := taken
  refine ⟨character :: body, others, rfl, ?_, ends, isGap⟩
  rw [List.mem_cons, not_or]
  exact ⟨other.symm, sameLine⟩

theorem GapState.Takes.closed (isGap : IsGap gap rest) :
    GapState.blockComment.Takes ('*' :: '/' :: gap) rest :=
  ⟨[], by simp, .inl ⟨gap, rfl, isGap⟩⟩

/-- A character of a block comment does not start its end mark, also together with what follows. -/
theorem GapState.Takes.inBlock (other : ∀ tail, character = '*' → gap ++ rest = '/' :: tail → False)
    (taken : GapState.blockComment.Takes gap rest) :
    GapState.blockComment.Takes (character :: gap) rest := by
  obtain ⟨body, inside, ends⟩ := taken
  have follows : ∀ next ∈ body.head?, ∃ tail, gap ++ rest = next :: tail := by
    intro next first
    obtain ⟨tail, rfl⟩ := List.head?_eq_some_iff.mp first
    obtain ⟨others, rfl, _⟩ | ⟨rfl, _⟩ := ends
    · exact ⟨_, rfl⟩
    · exact ⟨_, rfl⟩
  refine ⟨character :: body, ?_, ?_⟩
  · rw [endMark_infix_cons, not_or]
    refine ⟨?_, inside⟩
    rintro ⟨star, slash⟩
    obtain ⟨tail, starts⟩ := follows _ slash
    exact other tail star starts
  · obtain ⟨others, rfl, isGap⟩ | ⟨rfl, done⟩ := ends
    · exact .inl ⟨others, rfl, isGap⟩
    · exact .inr ⟨rfl, done⟩

/-- At the end of a text nothing is taken, in any state. -/
theorem GapState.Takes.nil (state : GapState) : state.Takes [] [] := by
  cases state with
  | between => exact IsGap.nil
  | lineComment => exact ⟨[], [], rfl, List.not_mem_nil, by simp, .nil⟩
  | blockComment => exact ⟨[], by simp, .inr ⟨rfl, rfl⟩⟩

end Takes

/-- White space between two tokens belongs to the gap. -/
theorem splitGap_blank {character : Char} (white : isBlank character = true) (source : List Char) :
    splitGap .between (character :: source)
      = (character :: (splitGap .between source).1, (splitGap .between source).2) := by
  rw [splitGap]
  · rw [if_pos white]
  · rintro rest rfl
    cases white
  · rintro rest rfl
    cases white

theorem splitGap_inLine (character : Char) (source : List Char) :
    splitGap .lineComment (character :: source)
      = (character :: (splitGap (if character = '\n' then .between else .lineComment) source).1,
        (splitGap (if character = '\n' then .between else .lineComment) source).2) := by
  rw [splitGap]

/-- A character of a block comment that does not start its end mark belongs to it. -/
theorem splitGap_inBlock {character : Char} {source : List Char}
    (other : character = '*' → source.head? ≠ some '/') :
    splitGap .blockComment (character :: source)
      = (character :: (splitGap .blockComment source).1, (splitGap .blockComment source).2) := by
  rw [splitGap]
  rintro rest star rfl
  exact other star rfl

/-- The reader of gaps loses no character. -/
theorem splitGap_append (state : GapState) (source : List Char) :
    (splitGap state source).1 ++ (splitGap state source).2 = source := by
  fun_induction splitGap state source <;> simp_all

/-- What the reader of gaps takes between two tokens is a gap. -/
theorem splitGap_takes (state : GapState) (source : List Char) :
    state.Takes (splitGap state source).1 (splitGap state source).2 := by
  fun_induction splitGap state source with
  | case1 source gap rest split taken =>
      rw [split] at taken
      exact IsGap.line taken
  | case2 source gap rest split taken =>
      rw [split] at taken
      exact IsGap.block taken
  | case3 character source _ _ white gap rest split taken =>
      rw [split] at taken
      exact IsGap.blank white taken
  | case4 => exact IsGap.nil
  | case5 character source gap rest split taken =>
      rw [split] at taken
      by_cases newline : character = '\n'
      · rw [if_pos newline] at taken
        rw [newline]
        exact GapState.Takes.newline taken
      · rw [if_neg newline] at taken
        exact GapState.Takes.inLine newline taken
  | case6 source gap rest split taken =>
      rw [split] at taken
      exact GapState.Takes.closed taken
  | case7 character source other gap rest split taken =>
      have same := splitGap_append .blockComment source
      rw [split] at taken same
      refine GapState.Takes.inBlock ?_ taken
      intro tail star slash
      exact other tail star (same.symm.trans slash)
  | case8 state => exact GapState.Takes.nil state

end SqlTree
