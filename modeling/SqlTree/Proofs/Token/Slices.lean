import SqlTree.Proofs.Token.Separators

/-!
# Slices of a text

The characters from the first byte of a token to the last byte of a later one are a text of their
own. It holds the tokens from the one to the other, with the same texts under their spans: a lexeme
is read as before where the text ends behind it, and so it is where a gap and another lexeme do.
-/

namespace SqlTree

open Text

/-- From the start of the first token of a run to the stop of its last one. -/
def runSpan (run : List Token) : Span :=
  ⟨run.head?.elim 0 (·.span.start), run.getLast?.elim 0 (·.span.stop)⟩

/-- The span of a run goes by its first and its last token. -/
theorem runSpan_eq {run : List Token} {first last : Token} (head : run.head? = some first)
    (tail : run.getLast? = some last) : runSpan run = ⟨first.span.start, last.span.stop⟩ := by
  rw [runSpan, head, tail]
  rfl

/-- What a run of tokens shows in a text, and the end of the input behind it. -/
def shownRun (source : List Char) (run : List Token) : List (TokenKind × Option (List Char)) :=
  run.map (Token.shown source) ++ [(.finish, some [])]

/-- What is listed of the lexemes of a text is their kinds and their characters. -/
def shownLexemes (lexemes : List (TokenKind × List Char)) :
    List (TokenKind × Option (List Char)) :=
  lexemes.map fun lexeme => (lexeme.1, some lexeme.2)

namespace Lexer

variable {fuel : Nat} {before source : List Char} {token : Token} {front run back : List Token}

/-- The first of the tokens that are read is a lexeme behind a gap, unless it is the end of the
input; the others are read from the text behind it. -/
theorem exists_lexeme (enough : source.length < fuel) (going : token.kind ≠ .finish)
    (read : tokensWithin fuel ⟨source, utf8Length before⟩ = token :: back) :
    ∃ fuelBehind gap first rest, splitGap .between source = (gap, first :: rest) ∧
      token.shown (before ++ source) =
        ((scanLexeme first rest).kind, some (scanLexeme first rest).text) ∧
      token.span = ⟨utf8Length (before ++ gap),
        utf8Length (before ++ gap ++ (scanLexeme first rest).text)⟩ ∧
      (scanLexeme first rest).rest.length < fuelBehind ∧
      tokensWithin fuelBehind ⟨(scanLexeme first rest).rest,
        utf8Length (before ++ gap ++ (scanLexeme first rest).text)⟩ = back := by
  obtain ⟨fuel, rfl⟩ := Nat.exists_eq_succ_of_ne_zero (Nat.ne_of_gt (Nat.zero_lt_of_lt enough))
  rcases split : splitGap .between source with ⟨gap, _ | ⟨first, rest⟩⟩
  · rw [tokensWithin_finish split] at read
    cases read
    exact absurd rfl going
  · rw [tokensWithin_lexeme split] at read
    obtain ⟨rfl, others⟩ := List.cons.inj read
    have text := textUnder?_utf8Length (before ++ gap) (scanLexeme first rest).text
      (scanLexeme first rest).rest
    rw [List.append_assoc before, ← source_eq_of_split split] at text
    simp only [utf8Length_append] at text ⊢
    refine ⟨fuel, gap, first, rest, rfl, ?_, rfl, rest_length_lt split enough, others⟩
    rw [Token.shown, text]

/-- The tokens behind some others are those of the text behind them. -/
theorem exists_behind (enough : source.length < fuel)
    (going : ∀ token ∈ front, token.kind ≠ .finish)
    (read : tokensWithin fuel ⟨source, utf8Length before⟩ = front ++ back) :
    ∃ fuelBehind passed left, before ++ source = passed ++ left ∧ left.length < fuelBehind ∧
      tokensWithin fuelBehind ⟨left, utf8Length passed⟩ = back := by
  induction front generalizing fuel before source with
  | nil => exact ⟨fuel, before, source, rfl, enough, read⟩
  | cons token front inductionHypothesis =>
      obtain ⟨goes, goingBehind⟩ := List.forall_mem_cons.mp going
      obtain ⟨fuelBehind, gap, first, rest, split, _, _, room, others⟩ :=
        exists_lexeme enough goes read
      obtain ⟨fuelLast, passed, left, same, enoughBehind, readBehind⟩ :=
        inductionHypothesis room goingBehind others
      refine ⟨fuelLast, passed, left, ?_, enoughBehind, readBehind⟩
      rw [← same, source_eq_of_split split]
      simp only [List.append_assoc]

/-- From the start of a token to the stop of a later one, a text has the lexemes that the tokens
from the one to the other show, and no more. By induction on the tokens: behind each of them the
text is cut where the last one stops, or at once. -/
theorem exists_slice (enough : source.length < fuel)
    (going : ∀ token ∈ run, token.kind ≠ .finish)
    (valid : ∀ token ∈ run, ∀ message, token.kind ≠ .invalid message)
    (read : tokensWithin fuel ⟨source, utf8Length before⟩ = run ++ back) :
    ∃ gap slice after lexemes, source = gap ++ slice ++ after ∧
      splitGap .between (gap ++ slice) = (gap, slice) ∧ Lexes slice lexemes ∧
      shownLexemes lexemes = shownRun (before ++ source) run ∧
      run.head?.elim (utf8Length before) (·.span.start) = utf8Length (before ++ gap) ∧
      run.getLast?.elim (utf8Length before) (·.span.stop) =
        utf8Length (before ++ gap ++ slice) := by
  induction run generalizing fuel before source with
  | nil => exact ⟨[], [], source, _, rfl, rfl, .finish rfl, rfl, by simp, by simp⟩
  | cons token run inductionHypothesis =>
      obtain ⟨goes, goingBehind⟩ := List.forall_mem_cons.mp going
      obtain ⟨validToken, validBehind⟩ := List.forall_mem_cons.mp valid
      obtain ⟨fuelBehind, gap, first, rest, split, shownToken, span, room, others⟩ :=
        exists_lexeme enough goes read
      obtain ⟨between, slice, after, lexemes, left, splitBehind, lexes, shown, _, stop⟩ :=
        inductionHypothesis room goingBehind validBehind others
      have whole := source_eq_of_split split
      have kind : token.kind = (scanLexeme first rest).kind := congrArg Prod.fst shownToken
      rw [kind] at validToken
      have parted : Parted (between ++ slice ++ after) (between ++ slice ++ []) := .append _ .ends
      rw [List.append_nil, ← left] at parted
      have lexesBehind := (Lexes.gap_iff splitBehind).mpr lexes
      refine ⟨gap, (scanLexeme first rest).text ++ (between ++ slice), after, _, ?_,
        splitGap_parted split validToken parted, lexesBehind.cons split validToken parted,
        ?_, ?_, ?_⟩
      · rw [whole, left]
        simp only [List.append_assoc]
      · simp only [List.append_assoc, ← whole] at shown
        rw [shownRun, List.map_cons, shownToken, List.cons_append, ← shownRun, ← shown]
        rfl
      · rw [List.head?_cons, Option.elim_some, span]
      · have last : (token :: run).getLast?.elim (utf8Length before) (·.span.stop) =
            run.getLast?.elim token.span.stop (·.span.stop) := by
          rw [List.getLast?_cons]
          cases run.getLast? <;> rfl
        rw [last, span, stop]
        simp only [List.append_assoc]

end Lexer

/-- The tokens of a text behind some others are read from the text behind them. -/
theorem exists_left {text : String} {front back : List Token} (nonempty : back ≠ [])
    (tokens : tokenize text = front ++ back) :
    ∃ fuel passed left, text.toList = passed ++ left ∧ left.length < fuel ∧
      Lexer.tokensWithin fuel ⟨left, utf8Length passed⟩ = back := by
  have going : ∀ token ∈ front, token.kind ≠ .finish := by
    have others := (tokenize_tiled text).nonempty
    rw [tokens, List.dropLast_append_of_ne_nil nonempty] at others
    exact fun token among => (others token (List.mem_append_left _ among)).1
  have enough : text.toList.length < text.toList.length + 1 := Nat.lt_succ_self _
  have read : Lexer.tokensWithin (text.toList.length + 1) ⟨text.toList, utf8Length []⟩ =
      front ++ back := tokens
  exact Lexer.exists_behind enough going read

/-- Every token of a text but the end of the input shows a lexeme. -/
theorem exists_lexeme_of_mem {text : String} {token : Token} (found : token ∈ tokenize text)
    (going : token.kind ≠ .finish) :
    ∃ first rest, token.shown text.toList =
      ((scanLexeme first rest).kind, some (scanLexeme first rest).text) := by
  obtain ⟨front, back, tokens⟩ := List.append_of_mem found
  obtain ⟨fuel, passed, left, whole, enough, read⟩ := exists_left (List.cons_ne_nil _ _) tokens
  obtain ⟨_, _, first, rest, _, shown, _⟩ := Lexer.exists_lexeme enough going read
  rw [whole]
  exact ⟨first, rest, shown⟩

/-- A token that shows a character is a lexeme, and the character its first one. -/
theorem exists_lexeme_of_under {text : String} {token : Token} {first : Char} {more : List Char}
    (found : token ∈ tokenize text)
    (under : textUnder? text.toList token.span = some (first :: more)) :
    ∃ rest, token.kind = (scanLexeme first rest).kind ∧
      first :: more = (scanLexeme first rest).text := by
  have going : token.kind ≠ .finish := by
    intro ends
    rw [(tokenize_tiled text).eq_finish token found ends, List.nil_append] at under
    have none := textUnder?_utf8Length text.toList [] []
    simp only [List.append_nil, utf8Length, Nat.add_zero] at none
    cases none.symm.trans under
  obtain ⟨head, rest, shown⟩ := exists_lexeme_of_mem found going
  rw [Token.shown, under] at shown
  obtain ⟨kind, shownText⟩ := Prod.mk.inj shown
  have whole := (scanLexeme_covers head rest).source
  rw [← Option.some.inj shownText] at whole
  obtain ⟨rfl, _⟩ := List.cons.inj whole
  exact ⟨rest, kind, Option.some.inj shownText⟩

/-- What is read of a text between the start of one of its tokens and the stop of a later one is the
tokens from the one to the other. -/
theorem tokenize_slice {text : String} {front run back : List Token} (nonempty : run ≠ [])
    (tokens : tokenize text = front ++ (run ++ back))
    (going : ∀ token ∈ run, token.kind ≠ .finish)
    (valid : ∀ token ∈ run, ∀ message, token.kind ≠ .invalid message) :
    ∃ slice, textUnder? text.toList (runSpan run) = some slice ∧
      (tokenize (String.ofList slice)).map (Token.shown slice) = shownRun text.toList run := by
  obtain ⟨fuel, passed, left, whole, enoughLeft, readLeft⟩ :=
    exists_left (List.append_ne_nil_of_left_ne_nil nonempty back) tokens
  obtain ⟨gap, slice, after, lexemes, same, _, lexes, shown, start, stop⟩ :=
    Lexer.exists_slice enoughLeft going valid readLeft
  rw [← whole] at shown
  refine ⟨slice, ?_, ?_⟩
  · have head := List.head?_eq_some_head nonempty
    have tail := List.getLast?_eq_some_getLast nonempty
    rw [head, Option.elim_some] at start
    rw [tail, Option.elim_some, utf8Length_append] at stop
    have text := textUnder?_utf8Length (passed ++ gap) slice after
    rw [List.append_assoc, ← List.append_assoc gap, ← same, ← whole] at text
    rwa [runSpan_eq head tail, start, stop]
  · obtain ⟨lexemesToo, lexesToo, shownToo⟩ := Lexer.exists_lexes [] (Nat.lt_succ_self slice.length)
    rw [lexesToo.unique lexes] at shownToo
    rw [tokenize, Lexer.ofText, String.toList_ofList]
    exact shownToo.trans shown

end SqlTree
