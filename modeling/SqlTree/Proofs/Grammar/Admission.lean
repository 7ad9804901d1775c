import SqlTree.Proofs.Grammar.Queries
import SqlTree.Proofs.Grammar.Sessions
import SqlTree.Proofs.Grammar.Streams

/-!
# Admission up to nesting

Where a reading would have to know how many levels are left, a parser is said to admit tokens: it
reads them, or finds that they are nested too deeply. Admission composes as readings do, because
the failure of a part is the failure of the whole.
-/

namespace SqlTree

open SqlTree.Parser SqlTree.Grammar

namespace Parser

variable {α β : Type}

/-- A parser takes exactly the tokens of some kinds and makes a value of them when tokens of other
kinds follow, unless they are nested too deeply. -/
def Admits (parser : Parser α) (kinds : List TokenKind) (value : α) (rest : List TokenKind) :
    Prop :=
  ∀ cursor : Cursor, cursor.Faces (kinds ++ rest) →
    parser cursor = .ok value (cursor.past kinds.length) ∨
      ∃ span stopped, parser cursor = .error ⟨.nestedTooDeeply, span⟩ stopped

theorem Reads.admits {parser : Parser α} {kinds rest : List TokenKind} {value : α}
    (read : Reads parser kinds value rest) : Admits parser kinds value rest :=
  fun cursor faces => .inl (read cursor faces)

namespace Admits

variable {parser item : Parser α} {next : α → Parser β} {value : α} {result : β} {kind : TokenKind}
  {front back kinds rest : List TokenKind}

/-- What is admitted by one parser after another is admitted by both. -/
theorem bind (first : Admits parser front value (back ++ rest))
    (second : Admits (next value) back result rest) :
    Admits (parser >>= next) (front ++ back) result rest := by
  intro cursor faces
  rw [List.append_assoc] at faces
  rcases first cursor faces with taken | ⟨span, stopped, deep⟩
  · rw [bind_of_ok taken, List.length_append, ← Cursor.past_past]
    exact second _ faces.past
  · exact .inr ⟨span, stopped, bind_of_error deep⟩

/-- A token that is read, and what is admitted behind it. -/
theorem bind_one (first : Reads parser [kind] value (back ++ rest))
    (second : Admits (next value) back result rest) :
    Admits (parser >>= next) (kind :: back) result rest :=
  bind first.admits second

theorem bind_none (first : Reads parser [] value (back ++ rest))
    (second : Admits (next value) back result rest) :
    Admits (parser >>= next) back result rest :=
  bind first.admits second

/-- What is admitted, and a parser behind it that takes nothing. -/
theorem bind_last (first : Admits parser kinds value rest)
    (second : Reads (next value) [] result rest) :
    Admits (parser >>= next) kinds result rest := by
  have composed : Admits (parser >>= next) (kinds ++ []) result rest := bind first second.admits
  rwa [List.append_nil] at composed

theorem map {function : α → β} (admits : Admits parser kinds value rest) :
    Admits (function <$> parser) kinds (function value) rest :=
  bind_last admits (Reads.pure _ _)

/-- A token is taken, of which only the kind is known behind it. -/
theorem advance_bind {next : Token → Parser β} (going : kind ≠ .finish)
    (every : ∀ token : Token, token.kind = kind → Admits (next token) back result rest) :
    Admits (advance >>= next) (kind :: back) result rest := by
  intro cursor faces
  have stepped : (advance >>= next) cursor = next cursor.current (cursor.past 1) := by
    change next cursor.current cursor.advance = _
    rw [faces.advance going]
  rw [stepped, List.length_cons, Nat.add_comm, ← Cursor.past_past]
  exact every cursor.current faces.current_kind _ faces.tail

/-- What is admitted before a closing parenthesis is admitted in parentheses. -/
theorem parenthesized (admits : Admits item kinds value (.symbol .rightParen :: rest)) :
    Admits (parenthesized item) (inParens kinds) value rest :=
  bind_one (Reads.expectSymbol _ _) (bind admits
    (bind_one (Reads.expectSymbol _ _) (Reads.pure _ _).admits))

/-- A loop whose first turn is admitted, and which stops behind it. -/
theorem collect_one {item : Parser (Option α)} (taken : kinds ≠ [])
    (first : Admits item kinds (some value) rest) (stops : Reads item [] none rest) :
    Admits (collect item) kinds [value] rest := by
  intro cursor faces
  have positive : 0 < kinds.length := List.length_pos_iff.mpr taken
  obtain ⟨fuel, enough⟩ : ∃ fuel, cursor.ahead.length + 1 = fuel + 1 + 1 := by
    rw [faces.length_ahead, List.length_append]
    exact ⟨kinds.length + rest.length - 1, by omega⟩
  have others : Reads (collectWithin item (fuel + 1)) [] [] rest :=
    Reads.bind_none stops (Reads.pure _ _)
  have all : Admits (collectWithin item (fuel + 1 + 1)) kinds [value] rest :=
    bind_last first (Reads.bind_none others (Reads.pure _ _))
  change collectWithin item (cursor.ahead.length + 1) cursor = _ ∨
    ∃ span stopped, collectWithin item (cursor.ahead.length + 1) cursor = _
  rw [enough]
  exact all cursor faces

/-- What is admitted up to the end of a stream leaves the end. -/
theorem ofTokens (admits : Admits parser kinds value []) (going : Going kinds)
    {tokens : List Token} (spells : Spells tokens kinds) :
    (∃ cursor, parser (.ofTokens tokens) = .ok value cursor ∧ cursor.current.kind = .finish) ∨
      ∃ span cursor, parser (.ofTokens tokens) = .error ⟨.nestedTooDeeply, span⟩ cursor := by
  have faces : (Cursor.ofTokens tokens).Faces (kinds ++ []) := by
    rw [List.append_nil]
    exact Cursor.faces_ofTokens going spells
  rcases admits _ faces with taken | deep
  · exact .inl ⟨_, taken, faces.past.current_kind⟩
  · exact .inr deep

end Admits

end Parser

section Ends

/-- Where nothing is left, no clause is read. -/
theorem Parser.Reads.optionalAfter_none {α : Type} (word : Keyword) (item : Parser α) :
    Reads (Parser.optionalAfter word item) [] none [] :=
  Reads.bind_none (Reads.eat_false nofun) (Reads.pure _ _)

theorem Parser.Reads.listBy_none {α : Type} (word : Keyword) (item : Parser α) :
    Reads (Grammar.listBy word item) [] [] [] :=
  Reads.bind_none (Reads.eat_false nofun) (Reads.pure _ _)

/-- An operand that is admitted up to the end is admitted as an expression. -/
theorem Parser.Admits.expression {levels : Nat} {body : Expr} {kinds : List TokenKind}
    (admits : Admits (operand (rules levels)) kinds body []) :
    Admits ((rules (levels + 1)).expression 0) kinds body [] :=
  Admits.bind_last admits (Reads.bind_none (ReadsEach.none (Reads.nextSuffix_none
    (EndsExpression.follows ⟨rfl, fun _ => rfl⟩ 0))).collect (Reads.pure _ _))

/-- A body that is admitted up to the end is admitted as a statement. -/
theorem Parser.Admits.statement {body : Statement} {kinds : List TokenKind}
    (admits : Admits statementBody kinds body []) (opens : kindAt kinds 0 ≠ .symbol .semicolon) :
    Admits Grammar.statement kinds body [] := by
  intro cursor faces
  rw [run_statement (List.append_nil kinds ▸ faces) opens]
  exact admits.bind_last (statementEnd body) cursor faces

end Ends

end SqlTree
