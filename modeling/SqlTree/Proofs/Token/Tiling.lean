import SqlTree.Proofs.Token.Gaps
import SqlTree.Proofs.Token.Lexemes

/-!
# Tilings

The tokens of a text lie side by side in it, what lies between two of them is a gap, and nothing of
the text is left out. Positions count bytes, so that every token starts and stops on the boundary of
a character. Behind the last token the end of the input is read again and again.
-/

namespace SqlTree

/-- The tokens of a text tile it. -/
structure Tiles (text : String) (tokens : List Token) : Prop where
  /-- Every token starts and stops inside the text, on the boundary of a character. -/
  boundaries : ∀ token ∈ tokens, (String.Pos.Raw.mk token.span.start).IsValid text ∧
    (String.Pos.Raw.mk token.span.stop).IsValid text
  /-- No token starts before an earlier one stops. -/
  ordered : tokens.Pairwise fun earlier later => earlier.span.stop ≤ later.span.start
  /-- Every token but the last takes a byte at least, and is no end of the input. -/
  nonempty : ∀ token ∈ tokens.dropLast,
    token.kind ≠ .finish ∧ token.span.start < token.span.stop
  /-- The last token is the end of the input, at the end of the text. -/
  last : tokens.getLast? = some ⟨.finish, .point text.utf8ByteSize⟩
  /-- From the stop of a token, or from the start of the text, to the start of the next token lies
  a gap. -/
  gaps : ∀ front token back, tokens = front ++ token :: back →
    ∃ before gap after : String, text = before ++ gap ++ after ∧
      before.utf8ByteSize = front.getLast?.elim 0 (·.span.stop) ∧
      (before ++ gap).utf8ByteSize = token.span.start ∧ IsGap gap.toList after.toList

/-! ## Bytes -/

theorem utf8Length_append (front back : List Char) :
    utf8Length (front ++ back) = utf8Length front + utf8Length back := by
  induction front with
  | nil => simp [utf8Length]
  | cons character front inductionHypothesis =>
      rw [List.cons_append, utf8Length, utf8Length, inductionHypothesis, Nat.add_assoc]

/-- The bytes of a text are those of its characters. -/
theorem utf8ByteSize_ofList (text : List Char) :
    (String.ofList text).utf8ByteSize = utf8Length text := by
  induction text with
  | nil => rfl
  | cons character text inductionHypothesis =>
      rw [String.ofList_cons, String.utf8ByteSize_append, String.utf8ByteSize_singleton,
        inductionHypothesis, utf8Length]

theorem utf8Length_pos {text : List Char} (nonempty : text ≠ []) : 0 < utf8Length text := by
  cases text with
  | nil => exact absurd rfl nonempty
  | cons character text => exact Nat.add_pos_left character.utf8Size_pos _

/-- A position behind some of the characters of a text is one of its boundaries. -/
theorem isValid_utf8Length (front back : List Char) :
    (String.Pos.Raw.mk (utf8Length front)).IsValid (String.ofList (front ++ back)) := by
  refine String.Pos.Raw.isValid_iff_exists_append.mpr
    ⟨String.ofList front, String.ofList back, String.ofList_append, ?_⟩
  rw [← utf8ByteSize_ofList]
  rfl

/-! ## One token after another -/

/-- What reading the next token can do: find the end of the text behind a last gap, or take a lexeme
behind a gap. -/
inductive Lexer.Reads : Lexer → Token × Lexer → Prop
  | finish {gap : List Char} {position : Nat} (isGap : IsGap gap []) :
      Reads ⟨gap, position⟩
        (⟨.finish, .point (position + utf8Length gap)⟩, ⟨[], position + utf8Length gap⟩)
  | token {gap lexeme rest : List Char} {kind : TokenKind} {position : Nat}
      (isGap : IsGap gap (lexeme ++ rest)) (nonempty : lexeme ≠ []) (going : kind ≠ .finish) :
      Reads ⟨gap ++ (lexeme ++ rest), position⟩
        (⟨kind, ⟨position + utf8Length gap, position + utf8Length gap + utf8Length lexeme⟩⟩,
          ⟨rest, position + utf8Length gap + utf8Length lexeme⟩)

theorem Lexer.reads_next (lexer : Lexer) : lexer.Reads lexer.next := by
  obtain ⟨source, position⟩ := lexer
  have isGap : IsGap _ _ := splitGap_takes .between source
  have same := splitGap_append .between source
  rw [next]
  generalize splitGap .between source = split at isGap same
  obtain ⟨gap, rest⟩ := split
  subst same
  cases rest with
  | nil =>
      rw [List.append_nil]
      exact .finish isGap
  | cons first rest =>
      have covers := scanLexeme_covers first rest
      dsimp only at isGap ⊢
      rw [covers.source] at isGap ⊢
      exact .token isGap covers.nonempty covers.going

/-- The tokens of a text tile it from behind some characters on. -/
inductive Tiled : (before source : List Char) → List Token → Prop
  | finish {before gap : List Char} (isGap : IsGap gap []) :
      Tiled before gap [⟨.finish, .point (utf8Length (before ++ gap))⟩]
  | token {before gap lexeme rest : List Char} {kind : TokenKind} {tokens : List Token}
      (isGap : IsGap gap (lexeme ++ rest)) (nonempty : lexeme ≠ []) (going : kind ≠ .finish)
      (others : Tiled (before ++ gap ++ lexeme) rest tokens) :
      Tiled before (gap ++ (lexeme ++ rest))
        (⟨kind, ⟨utf8Length (before ++ gap), utf8Length (before ++ gap ++ lexeme)⟩⟩ :: tokens)

/-- More turns than characters read a text to its end. -/
theorem Lexer.tiled_tokensWithin {fuel : Nat} {before source : List Char}
    (enough : source.length < fuel) :
    Tiled before source (tokensWithin fuel ⟨source, utf8Length before⟩) := by
  induction fuel generalizing before source with
  | zero => cases enough
  | succ fuel inductionHypothesis =>
      have reads := reads_next ⟨source, utf8Length before⟩
      rw [tokensWithin]
      generalize next ⟨source, utf8Length before⟩ = read at reads ⊢
      cases reads with
      | finish isGap =>
          rw [← utf8Length_append]
          exact .finish isGap
      | @token gap lexeme rest kind _ isGap nonempty going =>
          have shorter : rest.length < fuel := by
            have positive := List.length_pos_iff.mpr nonempty
            simp only [List.length_append] at enough
            omega
          have others : Tiled (before ++ gap ++ lexeme) rest _ := inductionHypothesis shorter
          dsimp only
          rw [if_neg going, ← utf8Length_append, ← utf8Length_append]
          exact .token isGap nonempty going others

/-- At the end of a text its end is read again and again. -/
theorem Lexer.take_end (count position : Nat) :
    take count ⟨[], position⟩ = List.replicate count ⟨.finish, .point position⟩ := by
  induction count with
  | zero => rfl
  | succ count inductionHypothesis =>
      change _ :: take count ⟨[], position⟩ = _
      rw [inductionHypothesis, List.replicate_succ]
      rfl

/-- The tokens of a text are those that are read in turn, and then its end. -/
theorem Lexer.take_tokensWithin {fuel : Nat} {lexer : Lexer} (enough : lexer.rest.length < fuel)
    (more : Nat) :
    lexer.take ((lexer.tokensWithin fuel).length + more) = lexer.tokensWithin fuel ++
      List.replicate more ⟨.finish, .point (lexer.position + utf8Length lexer.rest)⟩ := by
  induction fuel generalizing lexer with
  | zero => cases enough
  | succ fuel inductionHypothesis =>
      have reads := reads_next lexer
      generalize read : lexer.next = step at reads
      cases reads with
      | finish isGap =>
          rw [tokensWithin, read]
          dsimp only
          rw [if_pos rfl, List.length_singleton, Nat.add_comm, take, read, take_end]
          rfl
      | @token gap lexeme rest kind position isGap nonempty going =>
          have shorter : rest.length < fuel := by
            have positive := List.length_pos_iff.mpr nonempty
            simp only [List.length_append] at enough
            omega
          rw [tokensWithin, read]
          dsimp only
          rw [if_neg going, List.length_cons, Nat.add_right_comm, take, read]
          dsimp only
          rw [inductionHypothesis shorter, List.cons_append, utf8Length_append,
            utf8Length_append]
          simp only [Nat.add_assoc]

/-! ## What a tiling says of its tokens -/

namespace Tiled

variable {before source : List Char} {tokens : List Token}

theorem boundaries (tiled : Tiled before source tokens) : ∀ token ∈ tokens,
    (String.Pos.Raw.mk token.span.start).IsValid (String.ofList (before ++ source)) ∧
      (String.Pos.Raw.mk token.span.stop).IsValid (String.ofList (before ++ source)) := by
  induction tiled with
  | @finish before gap isGap =>
      have valid := isValid_utf8Length (before ++ gap) []
      rw [List.append_nil] at valid
      simp only [List.mem_singleton, forall_eq]
      exact ⟨valid, valid⟩
  | @token before gap lexeme rest kind tokens _ _ _ _ inductionHypothesis =>
      have start := isValid_utf8Length (before ++ gap) (lexeme ++ rest)
      have stop := isValid_utf8Length (before ++ gap ++ lexeme) rest
      simp only [List.append_assoc] at start stop inductionHypothesis ⊢
      rw [List.forall_mem_cons]
      exact ⟨⟨start, stop⟩, inductionHypothesis⟩

/-- No token starts before the characters that the tiling starts behind. -/
theorem le_start (tiled : Tiled before source tokens) :
    ∀ token ∈ tokens, utf8Length before ≤ token.span.start := by
  induction tiled with
  | finish =>
      simp only [List.mem_singleton, forall_eq, Span.point, utf8Length_append]
      exact Nat.le_add_right _ _
  | token _ _ _ _ inductionHypothesis =>
      rw [List.forall_mem_cons]
      simp only [utf8Length_append] at inductionHypothesis ⊢
      refine ⟨Nat.le_add_right _ _, fun token among => ?_⟩
      have bound := inductionHypothesis token among
      omega

theorem ordered (tiled : Tiled before source tokens) :
    tokens.Pairwise fun earlier later => earlier.span.stop ≤ later.span.start := by
  induction tiled with
  | finish => exact List.pairwise_singleton _ _
  | token _ _ _ others inductionHypothesis =>
      exact List.pairwise_cons.mpr ⟨others.le_start, inductionHypothesis⟩

theorem tokens_ne_nil (tiled : Tiled before source tokens) : tokens ≠ [] := by
  cases tiled <;> exact List.cons_ne_nil _ _

theorem nonempty (tiled : Tiled before source tokens) : ∀ token ∈ tokens.dropLast,
    token.kind ≠ .finish ∧ token.span.start < token.span.stop := by
  induction tiled with
  | finish => exact nofun
  | token _ nonempty going others inductionHypothesis =>
      rw [List.dropLast_cons_of_ne_nil others.tokens_ne_nil, List.forall_mem_cons]
      refine ⟨⟨going, ?_⟩, inductionHypothesis⟩
      simp only [utf8Length_append]
      exact Nat.lt_add_of_pos_right (utf8Length_pos nonempty)

theorem last (tiled : Tiled before source tokens) :
    tokens.getLast? = some ⟨.finish, .point (utf8Length (before ++ source))⟩ := by
  induction tiled with
  | finish => rfl
  | token _ _ _ others inductionHypothesis =>
      obtain ⟨first, more, rfl⟩ := List.exists_cons_of_ne_nil others.tokens_ne_nil
      rw [List.getLast?_cons_cons, inductionHypothesis]
      simp only [List.append_assoc]

/-- The only end of the input is behind the whole text. -/
theorem eq_finish (tiled : Tiled before source tokens) : ∀ token ∈ tokens,
    token.kind = .finish → token = ⟨.finish, .point (utf8Length (before ++ source))⟩ := by
  induction tiled with
  | finish => exact fun token found _ => List.mem_singleton.mp found
  | token _ _ going _ inductionHypothesis =>
      intro token found ends
      rcases List.mem_cons.mp found with rfl | behind
      · exact absurd ends going
      · rw [inductionHypothesis token behind ends]
        simp only [List.append_assoc]

/-- What lies before a token is a gap behind the token before it. -/
theorem gaps (tiled : Tiled before source tokens) {front back : List Token} {token : Token}
    (split : tokens = front ++ token :: back) :
    ∃ read gap rest : List Char, before ++ source = read ++ gap ++ rest ∧
      utf8Length read = front.getLast?.elim (utf8Length before) (·.span.stop) ∧
      utf8Length (read ++ gap) = token.span.start ∧ IsGap gap rest := by
  induction tiled generalizing front with
  | @finish before gap isGap =>
      obtain ⟨rfl, same⟩ : front = [] ∧ _ := by
        cases front with
        | nil => exact ⟨rfl, split⟩
        | cons first front => simp at split
      cases same
      exact ⟨before, gap, [], (List.append_nil _).symm, rfl, rfl, isGap⟩
  | @token before gap lexeme rest kind tokens isGap _ _ _ inductionHypothesis =>
      cases front with
      | nil =>
          cases split
          exact ⟨before, gap, lexeme ++ rest, (List.append_assoc _ _ _).symm, rfl, rfl, isGap⟩
      | cons first front =>
          obtain ⟨rfl, others⟩ := List.cons.inj split
          obtain ⟨read, behind, left, same, stop, start, isGapToo⟩ := inductionHypothesis others
          refine ⟨read, behind, left, ?_, ?_, start, isGapToo⟩
          · rw [← same]
            simp only [List.append_assoc]
          · rw [stop, List.getLast?_cons]
            cases front.getLast? <;> rfl

end Tiled

theorem tokenize_tiled (text : String) : Tiled [] text.toList (tokenize text) :=
  Lexer.tiled_tokensWithin (Nat.lt_succ_self _)

/-- The tokens of a text tile it, and reading on finds its end again and again. -/
theorem tokenize_tiles (text : String) :
    Tiles text (tokenize text) ∧ ∀ more, (Lexer.ofText text).take ((tokenize text).length + more) =
      tokenize text ++ List.replicate more ⟨.finish, .point text.utf8ByteSize⟩ := by
  have tiled := tokenize_tiled text
  have whole : String.ofList ([] ++ text.toList) = text := String.ofList_toList
  have size : utf8Length text.toList = text.utf8ByteSize := by
    rw [← utf8ByteSize_ofList, String.ofList_toList]
  refine ⟨⟨?_, tiled.ordered, tiled.nonempty, ?_, ?_⟩, ?_⟩
  · have boundaries := tiled.boundaries
    rwa [whole] at boundaries
  · rw [tiled.last, List.nil_append, size]
  · intro front token back split
    obtain ⟨read, gap, rest, same, stop, start, isGap⟩ := tiled.gaps split
    refine ⟨.ofList read, .ofList gap, .ofList rest, ?_, ?_, ?_, ?_⟩
    · rw [← whole, same, String.ofList_append, String.ofList_append]
    · rw [utf8ByteSize_ofList, stop]
      rfl
    · rw [← String.ofList_append, utf8ByteSize_ofList, start]
    · rwa [String.toList_ofList, String.toList_ofList]
  · intro more
    rw [← size, ← Nat.zero_add (utf8Length _)]
    exact Lexer.take_tokensWithin (Nat.lt_succ_self _) more

end SqlTree
