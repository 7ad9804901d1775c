import SqlTree.Grammar.Cursor
import SqlTree.Proofs.Token.Parting
import SqlTree.Proofs.Token.Tiling

/-!
# Separators

White space and comments may be put before any token of a text. The reader of gaps takes them
together with the gap before the token, and the lexemes before and behind them are read as they
were, so that the text has the same tokens as before.
-/

namespace SqlTree

open Text

/-- White space, line comments with the newline that ends them, and closed block comments, in any
order. -/
inductive IsSpacing : List Char → Prop
  | nil : IsSpacing []
  | blank {character : Char} {others : List Char} (white : isBlank character = true)
      (more : IsSpacing others) : IsSpacing (character :: others)
  | line {body others : List Char} (sameLine : '\n' ∉ body) (more : IsSpacing others) :
      IsSpacing ('-' :: '-' :: (body ++ '\n' :: others))
  | block {body others : List Char} (inside : ¬ ['*', '/'] <:+: body) (more : IsSpacing others) :
      IsSpacing ('/' :: '*' :: (body ++ '*' :: '/' :: others))

/-- A separator starts with white space and goes on with white space and comments. -/
structure IsSeparator (separator : List Char) : Prop where
  spaced : ∃ blank others, separator = blank :: others ∧ isBlank blank = true ∧ IsSpacing others

section Gaps

variable {gap source rest : List Char}

/-- A block comment does not end before it takes a character. -/
theorem splitGap_inBlock_ne_nil {source : List Char}
    (nonempty : (splitGap .blockComment source).2 ≠ []) :
    (splitGap .blockComment source).1 ≠ [] := by
  cases source with
  | nil => exact absurd rfl nonempty
  | cons character source =>
      by_cases ends : character = '*' → source.head? ≠ some '/'
      · rw [splitGap_inBlock ends]
        exact List.cons_ne_nil _ _
      · obtain ⟨rfl, slash⟩ := Classical.not_imp.mp ends
        obtain ⟨others, rfl⟩ := List.head?_eq_some_iff.mp (Classical.not_not.mp slash)
        rw [splitGap]
        exact List.cons_ne_nil _ _

/-- What stands behind a gap has none at its start. -/
theorem splitGap_rest (state : GapState) (nonempty : (splitGap state source).2 ≠ []) :
    splitGap .between (splitGap state source).2 = ([], (splitGap state source).2) := by
  fun_induction splitGap state source with
  | case1 source gap rest split inductionHypothesis =>
      rw [split] at inductionHypothesis
      exact inductionHypothesis nonempty
  | case2 source gap rest split inductionHypothesis =>
      rw [split] at inductionHypothesis
      exact inductionHypothesis nonempty
  | case3 character source _ _ white gap rest split inductionHypothesis =>
      rw [split] at inductionHypothesis
      exact inductionHypothesis nonempty
  | case4 character source noLine noBlock black =>
      rw [splitGap]
      · rw [if_neg black]
      · exact noLine
      · exact noBlock
  | case5 character source gap rest split inductionHypothesis =>
      rw [split] at inductionHypothesis
      exact inductionHypothesis nonempty
  | case6 source gap rest split inductionHypothesis =>
      rw [split] at inductionHypothesis
      exact inductionHypothesis nonempty
  | case7 character source other gap rest split inductionHypothesis =>
      rw [split] at inductionHypothesis
      exact inductionHypothesis nonempty
  | case8 => exact absurd rfl nonempty

/-- A gap with a token behind it is read in the same way before any other text. -/
theorem splitGap_gap (state : GapState) (more : List Char)
    (nonempty : (splitGap state source).2 ≠ []) :
    splitGap state ((splitGap state source).1 ++ more)
      = ((splitGap state source).1 ++ (splitGap .between more).1, (splitGap .between more).2) := by
  fun_induction splitGap state source with
  | case1 source gap rest split inductionHypothesis =>
      rw [split] at inductionHypothesis
      have again := inductionHypothesis nonempty
      simp only [List.cons_append] at again ⊢
      rw [splitGap, again]
  | case2 source gap rest split inductionHypothesis =>
      rw [split] at inductionHypothesis
      have again := inductionHypothesis nonempty
      simp only [List.cons_append] at again ⊢
      rw [splitGap, again]
  | case3 character source _ _ white gap rest split inductionHypothesis =>
      rw [split] at inductionHypothesis
      have again := inductionHypothesis nonempty
      simp only [List.cons_append] at again ⊢
      rw [splitGap_blank white, again]
  | case4 character source noLine noBlock black => simp
  | case5 character source gap rest split inductionHypothesis =>
      rw [split] at inductionHypothesis
      have again := inductionHypothesis nonempty
      simp only [List.cons_append] at again ⊢
      rw [splitGap_inLine, again]
  | case6 source gap rest split inductionHypothesis =>
      rw [split] at inductionHypothesis
      have again := inductionHypothesis nonempty
      simp only [List.cons_append] at again ⊢
      rw [splitGap, again]
  | case7 character source other gap rest split inductionHypothesis =>
      have whole := splitGap_append .blockComment source
      have taken : (splitGap .blockComment source).2 ≠ [] → _ := splitGap_inBlock_ne_nil
      rw [split] at inductionHypothesis whole taken
      have again := inductionHypothesis nonempty
      obtain ⟨first, others, rfl⟩ := List.exists_cons_of_ne_nil (taken nonempty)
      simp only [List.cons_append] at again ⊢
      rw [splitGap_inBlock, again]
      rintro star slash
      obtain rfl : first = '/' := Option.some.inj slash
      exact other _ star whole.symm
  | case8 => exact absurd rfl nonempty

/-- What stands behind a gap ends one. -/
theorem splitGap_ends (nonempty : rest ≠ []) (split : splitGap .between source = (gap, rest)) :
    splitGap .between rest = ([], rest) := by
  have rested : (splitGap .between source).2 ≠ [] → _ := splitGap_rest .between
  rw [split] at rested
  exact rested nonempty

/-- A gap that ends before a token goes on with the gap of any other text behind it. -/
theorem splitGap_before {more between left : List Char} (nonempty : rest ≠ [])
    (split : splitGap .between source = (gap, rest))
    (behind : splitGap .between more = (between, left)) :
    splitGap .between (gap ++ more) = (gap ++ between, left) := by
  have joined : (splitGap .between source).2 ≠ [] → _ := splitGap_gap .between more
  rw [split, behind] at joined
  exact joined nonempty

/-- A character that is no white space and starts no comment ends a gap. -/
theorem splitGap_token {first : Char} (black : ¬ isBlank first = true)
    (noLine : first = '-' → source.head? ≠ some '-')
    (noBlock : first = '/' → source.head? ≠ some '*') :
    splitGap .between (first :: source) = ([], first :: source) := by
  rw [splitGap]
  · rw [if_neg black]
  · rintro rest dash rfl
    exact noLine dash rfl
  · rintro rest slash rfl
    exact noBlock slash rfl

/-- What ends a gap ends it also where the text is parted behind the first character. -/
theorem splitGap_cut {first : Char} {cut : List Char}
    (split : splitGap .between (first :: source) = ([], first :: source))
    (parted : Parted source cut) : splitGap .between (first :: cut) = ([], first :: cut) := by
  have apart {mark : Char} (plain : isBlank mark = false) (other : source.head? ≠ some mark) :
      cut.head? ≠ some mark := by
    intro found
    refine parted.head (fun _ white => ne_of_isBlank white plain) ?_ mark found rfl
    rintro character start rfl
    exact other start
  refine splitGap_token ?_ (fun dash => apart rfl ?_) fun slash => apart rfl ?_
  · intro white
    rw [splitGap_blank white] at split
    cases split
  · intro second
    obtain ⟨others, rfl⟩ := List.head?_eq_some_iff.mp second
    rw [dash, splitGap] at split
    cases split
  · intro second
    obtain ⟨others, rfl⟩ := List.head?_eq_some_iff.mp second
    rw [slash, splitGap] at split
    cases split

/-- A line comment is read up to its newline. -/
theorem splitGap_line {body : List Char} (sameLine : '\n' ∉ body) (more : List Char) :
    splitGap .lineComment (body ++ '\n' :: more)
      = (body ++ '\n' :: (splitGap .between more).1, (splitGap .between more).2) := by
  induction body with
  | nil => rw [List.nil_append, splitGap_inLine, if_pos rfl, List.nil_append]
  | cons character body inductionHypothesis =>
      obtain ⟨other, others⟩ := not_or.mp (mt List.mem_cons.mpr sameLine)
      rw [List.cons_append, splitGap_inLine, if_neg (Ne.symm other), inductionHypothesis others]
      rfl

/-- A block comment is read up to its end mark. -/
theorem splitGap_block {body : List Char} (inside : ¬ ['*', '/'] <:+: body) (more : List Char) :
    splitGap .blockComment (body ++ '*' :: '/' :: more)
      = (body ++ '*' :: '/' :: (splitGap .between more).1, (splitGap .between more).2) := by
  induction body with
  | nil => rw [List.nil_append, splitGap, List.nil_append]
  | cons character body inductionHypothesis =>
      rw [endMark_infix_cons, not_or] at inside
      rw [List.cons_append, splitGap_inBlock, inductionHypothesis inside.2]
      · rfl
      · intro star slash
        refine inside.1 ⟨star, ?_⟩
        cases body with
        | nil => cases slash
        | cons next body => exact slash

/-- White space and comments before what ends a gap are the gap. -/
theorem splitGap_spacing {spacing : List Char} (isSpacing : IsSpacing spacing)
    (ends : splitGap .between rest = ([], rest)) :
    splitGap .between (spacing ++ rest) = (spacing, rest) := by
  induction isSpacing with
  | nil => exact ends
  | blank white _ inductionHypothesis =>
      rw [List.cons_append, splitGap_blank white, inductionHypothesis]
  | line sameLine _ inductionHypothesis =>
      simp only [List.cons_append, List.append_assoc]
      rw [splitGap, splitGap_line sameLine, inductionHypothesis]
  | block inside _ inductionHypothesis =>
      simp only [List.cons_append, List.append_assoc]
      rw [splitGap, splitGap_block inside, inductionHypothesis]

end Gaps

/-- The lexemes of a text, each with the characters that it takes. -/
inductive Lexes : (source : List Char) → List (TokenKind × List Char) → Prop
  | finish {source gap : List Char} (split : splitGap .between source = (gap, [])) :
      Lexes source [(.finish, [])]
  | lexeme {source gap rest : List Char} {first : Char} {lexemes : List (TokenKind × List Char)}
      (split : splitGap .between source = (gap, first :: rest))
      (others : Lexes (scanLexeme first rest).rest lexemes) :
      Lexes source (((scanLexeme first rest).kind, (scanLexeme first rest).text) :: lexemes)

/-- A lexeme starts behind some characters of a text. -/
inductive Starts : (before source : List Char) → Prop
  | here {gap source : List Char} (split : splitGap .between (gap ++ source) = (gap, source))
      (nonempty : source ≠ []) : Starts gap source
  | later {gap before source rest : List Char} {first : Char}
      (split : splitGap .between (gap ++ (first :: rest)) = (gap, first :: rest))
      (left : (scanLexeme first rest).rest = before ++ source) (later : Starts before source) :
      Starts (gap ++ ((scanLexeme first rest).text ++ before)) source

section Lexes

variable {source before : List Char} {lexemes other : List (TokenKind × List Char)}

/-- The lexemes of a text are the only ones. -/
theorem Lexes.unique (lexes : Lexes source lexemes) (again : Lexes source other) :
    lexemes = other := by
  induction lexes generalizing other with
  | finish split =>
      cases again with
      | finish => rfl
      | lexeme splitToo _ => cases split.symm.trans splitToo
  | lexeme split _ inductionHypothesis =>
      cases again with
      | finish splitToo => cases split.symm.trans splitToo
      | lexeme splitToo others =>
          cases split.symm.trans splitToo
          rw [inductionHypothesis others]

/-- The lexemes of a text are those behind its first gap. -/
theorem Lexes.gap_iff {gap rest : List Char} (split : splitGap .between source = (gap, rest)) :
    Lexes source lexemes ↔ Lexes rest lexemes := by
  have again : splitGap .between rest = ([], rest) := by
    cases rest with
    | nil => rfl
    | cons first rest => exact splitGap_ends (List.cons_ne_nil first rest) split
  constructor
  · intro lexes
    cases lexes with
    | finish splitToo =>
        cases split.symm.trans splitToo
        exact .finish again
    | lexeme splitToo others =>
        cases split.symm.trans splitToo
        exact .lexeme again others
  · intro lexes
    cases lexes with
    | finish splitToo =>
        cases again.symm.trans splitToo
        exact .finish split
    | lexeme splitToo others =>
        cases again.symm.trans splitToo
        exact .lexeme split others

section Parts

variable {gap rest cut : List Char} {first : Char}
  (split : splitGap .between source = (gap, first :: rest))
  (valid : ∀ message, (scanLexeme first rest).kind ≠ .invalid message)
  (parted : Parted (scanLexeme first rest).rest cut)

include split valid parted

/-- Where the text behind a lexeme is parted, the gap before the lexeme is the same. -/
theorem splitGap_parted : splitGap .between (gap ++ ((scanLexeme first rest).text ++ cut))
    = (gap, (scanLexeme first rest).text ++ cut) := by
  have whole : first :: rest = (scanLexeme first rest).text ++ (scanLexeme first rest).rest :=
    (scanLexeme_covers first rest).source
  obtain ⟨more, text, _⟩ := scanLexeme_cut valid parted
  rw [← text, List.cons_append] at whole ⊢
  have partedToo : Parted rest (more ++ cut) := by
    rw [(List.cons.inj whole).2]
    exact parted.append more
  have ends := splitGap_cut (splitGap_ends (List.cons_ne_nil _ _) split) partedToo
  have joined := splitGap_before (List.cons_ne_nil _ _) split ends
  rwa [List.append_nil] at joined

/-- Where the text behind a lexeme is parted, the lexeme is read as before, and the lexemes of the
new text follow it. -/
theorem Lexes.cons (lexes : Lexes cut lexemes) : Lexes ((scanLexeme first rest).text ++ cut)
    (((scanLexeme first rest).kind, (scanLexeme first rest).text) :: lexemes) := by
  have between := splitGap_parted split valid parted
  obtain ⟨more, text, again⟩ := scanLexeme_cut valid parted
  rw [← text, List.cons_append] at between ⊢
  have ends := splitGap_ends (List.cons_ne_nil _ _) between
  have lexed := Lexes.lexeme ends (by rw [again]; exact lexes)
  rwa [again, ← text] at lexed

end Parts

/-- A separator before a lexeme leaves the lexemes of a text as they are. By induction on the
lexemes before it, each of which is read as before because the text behind it is parted by white
space alone. -/
theorem Lexes.separated {separator : List Char} (starts : Starts before source)
    (lexes : Lexes (before ++ source) lexemes)
    (valid : ∀ lexeme ∈ lexemes, ∀ message, lexeme.1 ≠ .invalid message)
    (separates : IsSeparator separator) : Lexes (before ++ (separator ++ source)) lexemes := by
  induction starts generalizing lexemes with
  | @here gap source split nonempty =>
      cases lexes with
      | finish splitToo =>
          cases split.symm.trans splitToo
          exact absurd rfl nonempty
      | lexeme splitToo others =>
          cases split.symm.trans splitToo
          obtain ⟨blank, spacing, rfl, white, isSpacing⟩ := separates
          have spaced := splitGap_spacing (.blank white isSpacing) (splitGap_ends nonempty split)
          exact .lexeme (splitGap_before nonempty split spaced) others
  | @later gap before source rest first split left later inductionHypothesis =>
      have whole : first :: rest = (scanLexeme first rest).text ++ (before ++ source) := by
        rw [← left]
        exact (scanLexeme_covers first rest).source
      have front : gap ++ ((scanLexeme first rest).text ++ before) ++ source
          = gap ++ (first :: rest) := by
        rw [whole]
        simp only [List.append_assoc]
      rw [front] at lexes
      cases lexes with
      | finish splitToo => cases split.symm.trans splitToo
      | lexeme splitToo others =>
          cases split.symm.trans splitToo
          rw [left] at others
          obtain ⟨this, validBehind⟩ := List.forall_mem_cons.mp valid
          have rested := inductionHypothesis others validBehind
          have parted : Parted (before ++ source) (before ++ (separator ++ source)) := by
            obtain ⟨blank, spacing, rfl, white, _⟩ := separates
            exact .append before (.here white)
          rw [← left] at parted
          have splitNew := splitGap_parted split this parted
          rw [List.append_assoc, List.append_assoc, Lexes.gap_iff splitNew]
          exact rested.cons split this parted

end Lexes

section Bytes

/-- Behind the bytes of the first characters stand the others. -/
theorem dropBytes_utf8Length (front back : List Char) :
    dropBytes (utf8Length front) (front ++ back) = some back := by
  induction front with
  | nil =>
      rw [List.nil_append, utf8Length]
      exact dropBytes.eq_1 back
  | cons character front inductionHypothesis =>
      obtain ⟨count, size⟩ := Nat.exists_eq_succ_of_ne_zero
        (Nat.ne_of_gt (utf8Length_pos (List.cons_ne_nil character front)))
      have bytes : character.utf8Size + utf8Length front = count + 1 := size
      rw [size, List.cons_append, dropBytes, if_pos (by omega)]
      rwa [← bytes, Nat.add_sub_cancel_left]

/-- The bytes of the first characters are those characters. -/
theorem takeBytes_utf8Length (front back : List Char) :
    takeBytes (utf8Length front) (front ++ back) = some front := by
  induction front with
  | nil =>
      rw [List.nil_append, utf8Length]
      exact takeBytes.eq_1 back
  | cons character front inductionHypothesis =>
      obtain ⟨count, size⟩ := Nat.exists_eq_succ_of_ne_zero
        (Nat.ne_of_gt (utf8Length_pos (List.cons_ne_nil character front)))
      have bytes : character.utf8Size + utf8Length front = count + 1 := size
      rw [size, List.cons_append, takeBytes, if_pos (by omega), ← bytes, Nat.add_sub_cancel_left,
        inductionHypothesis]
      rfl

/-- The text under the span of some characters is what they are. -/
theorem textUnder?_utf8Length (front text back : List Char) :
    textUnder? (front ++ (text ++ back)) ⟨utf8Length front, utf8Length front + utf8Length text⟩
      = some text := by
  rw [textUnder?, if_pos (Nat.le_add_right _ _), dropBytes_utf8Length, Option.bind_some,
    Nat.add_sub_cancel_left, takeBytes_utf8Length]

end Bytes

/-- What a token shows: its kind, and the text under its span. -/
def Token.shown (source : List Char) (token : Token) : TokenKind × Option (List Char) :=
  (token.kind, textUnder? source token.span)

namespace Lexer

variable {fuel position : Nat} {before source gap rest : List Char} {first : Char}

/-- Behind the last gap of a text stands its end. -/
theorem tokensWithin_finish (split : splitGap .between source = (gap, [])) :
    tokensWithin (fuel + 1) ⟨source, position⟩ =
      [⟨.finish, .point (position + utf8Length gap)⟩] := by
  rw [tokensWithin, next]
  simp only [split]
  rfl

/-- Behind any other gap stands a lexeme, and then the other tokens. -/
theorem tokensWithin_lexeme (split : splitGap .between source = (gap, first :: rest)) :
    tokensWithin (fuel + 1) ⟨source, position⟩ =
      ⟨(scanLexeme first rest).kind, ⟨position + utf8Length gap,
        position + utf8Length gap + utf8Length (scanLexeme first rest).text⟩⟩ ::
      tokensWithin fuel ⟨(scanLexeme first rest).rest,
        position + utf8Length gap + utf8Length (scanLexeme first rest).text⟩ := by
  rw [tokensWithin, next]
  simp only [split]
  rw [if_neg (scanLexeme_covers first rest).going]

/-- A text is a gap with a lexeme and the rest of the text behind it. -/
theorem source_eq_of_split (split : splitGap .between source = (gap, first :: rest)) :
    source = gap ++ ((scanLexeme first rest).text ++ (scanLexeme first rest).rest) := by
  have whole := splitGap_append .between source
  rw [split] at whole
  rw [← (scanLexeme_covers first rest).source]
  exact whole.symm

/-- A lexeme leaves less of a text than there was. -/
theorem rest_length_lt (split : splitGap .between source = (gap, first :: rest))
    (enough : source.length < fuel + 1) : (scanLexeme first rest).rest.length < fuel := by
  have positive := List.length_pos_iff.mpr (scanLexeme_covers first rest).nonempty
  have whole := congrArg List.length (source_eq_of_split split)
  simp only [List.length_append] at whole
  omega

/-- The tokens of a text show its lexemes, if there are enough turns to read them all. -/
theorem exists_lexes (before : List Char) (enough : source.length < fuel) :
    ∃ lexemes, Lexes source lexemes ∧
      (tokensWithin fuel ⟨source, utf8Length before⟩).map (Token.shown (before ++ source))
        = lexemes.map fun lexeme => (lexeme.1, some lexeme.2) := by
  induction fuel generalizing before source with
  | zero => cases enough
  | succ fuel inductionHypothesis =>
      rcases split : splitGap .between source with ⟨gap, _ | ⟨first, rest⟩⟩
      · have whole : gap = source := by
          have joined := splitGap_append .between source
          rwa [split, List.append_nil] at joined
        subst whole
        have ends := textUnder?_utf8Length (before ++ gap) [] []
        simp only [List.append_nil] at ends
        refine ⟨_, .finish split, ?_⟩
        rw [tokensWithin_finish split, ← utf8Length_append]
        exact congrArg (fun text => [(TokenKind.finish, text)]) ends
      · have whole := source_eq_of_split split
        obtain ⟨lexemes, others, shown⟩ := inductionHypothesis
          (before ++ (gap ++ (scanLexeme first rest).text)) (rest_length_lt split enough)
        refine ⟨_, .lexeme split others, ?_⟩
        have text := textUnder?_utf8Length (before ++ gap) (scanLexeme first rest).text
          (scanLexeme first rest).rest
        simp only [List.append_assoc, ← whole, utf8Length_append] at text shown
        rw [tokensWithin_lexeme split, List.map_cons, List.map_cons, ← shown]
        simp only [Token.shown, Nat.add_assoc] at text ⊢
        rw [text]

/-- Every token but the end of the input starts where a lexeme does. -/
theorem exists_starts (before : List Char) (enough : source.length < fuel) :
    ∀ token ∈ tokensWithin fuel ⟨source, utf8Length before⟩, token.kind ≠ .finish →
      ∃ front back, source = front ++ back ∧ token.span.start = utf8Length (before ++ front) ∧
        Starts front back := by
  induction fuel generalizing before source with
  | zero => cases enough
  | succ fuel inductionHypothesis =>
      rcases split : splitGap .between source with ⟨gap, _ | ⟨first, rest⟩⟩
      · rw [tokensWithin_finish split]
        intro token found going
        rw [List.mem_singleton.mp found] at going
        exact absurd rfl going
      · have whole := source_eq_of_split split
        have joined : source = gap ++ first :: rest := by
          rw [(scanLexeme_covers first rest).source]
          exact whole
        have splitToo : splitGap .between (gap ++ first :: rest) = (gap, first :: rest) := by
          rwa [← joined]
        rw [tokensWithin_lexeme split]
        intro token found going
        rcases List.mem_cons.mp found with rfl | later
        · exact ⟨gap, first :: rest, joined, (utf8Length_append _ _).symm,
            .here splitToo (List.cons_ne_nil _ _)⟩
        · have others := inductionHypothesis (before ++ (gap ++ (scanLexeme first rest).text))
            (rest_length_lt split enough) token
          simp only [utf8Length_append, ← Nat.add_assoc] at others later
          obtain ⟨front, back, left, start, starts⟩ := others later going
          refine ⟨gap ++ ((scanLexeme first rest).text ++ front), back, ?_, ?_, ?_⟩
          · simp only [List.append_assoc, ← left, ← whole]
          · simp only [start, utf8Length_append, Nat.add_assoc]
          · exact .later splitToo left starts

end Lexer

/-- A text has one part in front of a number of bytes. -/
theorem eq_of_utf8Length_eq {front back frontToo backToo : List Char}
    (same : front ++ back = frontToo ++ backToo)
    (bytes : utf8Length front = utf8Length frontToo) : front = frontToo ∧ back = backToo := by
  have behind := dropBytes_utf8Length front back
  rw [same, bytes, dropBytes_utf8Length, Option.some.injEq] at behind
  subst behind
  exact ⟨List.append_cancel_right same, rfl⟩

/-- A separator before a token leaves the tokens of a text as they are, with the texts under their
spans, if none of them is an error. -/
theorem tokenize_separated {front separator back : String} {token : Token}
    (valid : ∀ token ∈ tokenize (front ++ back), ∀ message, token.kind ≠ .invalid message)
    (found : token ∈ tokenize (front ++ back)) (going : token.kind ≠ .finish)
    (start : token.span.start = front.utf8ByteSize) (separates : IsSeparator separator.toList) :
    (tokenize (front ++ separator ++ back)).map (Token.shown (front ++ separator ++ back).toList)
      = (tokenize (front ++ back)).map (Token.shown (front ++ back).toList) := by
  obtain ⟨lexemes, lexes, shown⟩ :=
    Lexer.exists_lexes [] (Nat.lt_succ_self (front ++ back).toList.length)
  obtain ⟨lexemesToo, lexesToo, shownToo⟩ :=
    Lexer.exists_lexes [] (Nat.lt_succ_self (front ++ separator ++ back).toList.length)
  obtain ⟨before, source, split, position, starts⟩ :=
    Lexer.exists_starts [] (Nat.lt_succ_self _) token found going
  have bytes : utf8Length before = utf8Length front.toList := by
    rw [← utf8ByteSize_ofList front.toList, String.ofList_toList, ← start, position]
    rfl
  rw [String.toList_append] at split
  obtain ⟨rfl, rfl⟩ := eq_of_utf8Length_eq split.symm bytes
  have validLexemes : ∀ lexeme ∈ lexemes, ∀ message, lexeme.1 ≠ .invalid message := by
    intro lexeme among message invalid
    have listed := List.mem_map_of_mem (f := fun lexeme => (lexeme.1, some lexeme.2)) among
    rw [← shown] at listed
    obtain ⟨other, otherFound, same⟩ := List.mem_map.mp listed
    exact valid other otherFound message ((congrArg Prod.fst same).trans invalid)
  rw [String.toList_append] at lexes
  have separated := lexes.separated starts validLexemes separates
  rw [String.toList_append, String.toList_append, List.append_assoc] at lexesToo
  rw [← separated.unique lexesToo] at shownToo
  exact shownToo.trans shown.symm

end SqlTree
