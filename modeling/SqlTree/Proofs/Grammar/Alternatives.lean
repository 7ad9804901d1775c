import SqlTree.Grammar.Query
import SqlTree.Grammar.Sequence

/-!
# Alternatives

The rules of operands, case expressions, suffixes and integers choose among alternatives by the
tokens that stand ahead. What holds of every alternative holds of the one that is chosen.
-/

namespace SqlTree.Grammar

open SqlTree.Parser

section Operands

/-- What an operand without operators around it is read as, by its first token. -/
def primaryBy (inner : Rules) (kind : TokenKind) : Parser Expr :=
  match literalOf? kind with
  | some value => do
    let _ ← advance
    return .literal value
  | none =>
    match kind with
    | .parameter number => do
      let _ ← advance
      return .parameter (parameterName number)
    | .symbol .star => do
      let _ ← advance
      return .star
    | .symbol .leftParen => parenthesizedExpression inner
    | .keyword .CASE => caseExpression inner
    | .keyword .CAST => castExpression inner
    | .keyword .EXISTS => do
      if (← look 1) = .symbol .leftParen then existsTest inner else nameExpression inner
    | kind => if kind.name?.isSome then nameExpression inner else unexpected .expression

theorem primary_eq (inner : Rules) : primary inner = (do primaryBy inner (← look 0)) := rfl

/-- What holds of every way to read an operand, whatever the rules inside are, holds of the one that
its first token chooses. -/
theorem primaryBy_forms (Holds : (Rules → Parser Expr) → Prop) (kind : TokenKind)
    (literal : ∀ value, literalOf? kind = some value →
      Holds fun _ => do
        let _ ← advance
        return .literal value)
    (parameter : ∀ number, kind = .parameter number →
      Holds fun _ => do
        let _ ← advance
        return .parameter (parameterName number))
    (star : kind = .symbol .star →
      Holds fun _ => do
        let _ ← advance
        return .star)
    (parens : Holds parenthesizedExpression) (case : Holds caseExpression)
    (cast : Holds castExpression)
    (test : kind = .keyword .EXISTS →
      Holds fun inner => do
        if (← look 1) = .symbol .leftParen then existsTest inner else nameExpression inner)
    (named : Holds nameExpression) (fails : Holds fun _ => unexpected .expression) :
    Holds fun inner => primaryBy inner kind := by
  cases kind with
  | integer value => exact literal _ rfl
  | numeric value => exact literal _ rfl
  | string value => exact literal _ rfl
  | parameter number => exact parameter number rfl
  | identifier name => exact named
  | keyword word =>
      cases word <;>
        first
        | exact fails
        | exact named
        | exact case
        | exact cast
        | exact test rfl
        | exact literal _ rfl
  | symbol mark => cases mark <;> first | exact fails | exact star rfl | exact parens
  | finish => exact fails
  | invalid message => exact fails

/-- What holds of every way to read an operand holds of the one that its first token chooses. -/
theorem primaryBy_cases {inner : Rules} (Holds : Parser Expr → Prop) (kind : TokenKind)
    (literal : ∀ value, literalOf? kind = some value →
      Holds do
        let _ ← advance
        return .literal value)
    (parameter : ∀ number, kind = .parameter number →
      Holds do
        let _ ← advance
        return .parameter (parameterName number))
    (star : kind = .symbol .star →
      Holds do
        let _ ← advance
        return .star)
    (parens : Holds (parenthesizedExpression inner)) (case : Holds (caseExpression inner))
    (cast : Holds (castExpression inner))
    (test : kind = .keyword .EXISTS →
      Holds do
        if (← look 1) = .symbol .leftParen then existsTest inner else nameExpression inner)
    (named : Holds (nameExpression inner)) (fails : Holds (unexpected .expression)) :
    Holds (primaryBy inner kind) :=
  primaryBy_forms (fun read => Holds (read inner)) kind literal parameter star parens case cast test
    named fails

end Operands

section Cases

/-- What a case expression is read as behind its arms. -/
def caseEnd (inner : Rules) (subject : Option Expr) (arms : List CaseArm) : Parser Expr := do
  let otherwise ← optionalAfter .ELSE (inner.expression 0)
  expectKeyword .END
  return .case subject arms otherwise

/-- What a case expression is read as behind its subject. -/
def caseBehind (inner : Rules) (subject : Option Expr) : Parser Expr := do
  let arms ← manyAfter (eatKeyword .WHEN) (caseArm inner)
  if arms.isEmpty then unexpected (.keyword .WHEN)
  caseEnd inner subject arms

theorem caseExpression_eq (inner : Rules) : caseExpression inner = (do
    expectKeyword .CASE
    let direct ← atKeyword .WHEN
    if direct then pure none >>= caseBehind inner
    else some <$> inner.expression 0 >>= caseBehind inner) :=
  rfl

end Cases

section Suffixes

/-- The suffix behind the token of its operator. -/
def suffixBehind (inner : Rules) (power : Nat) (negated : Prop) [Decidable negated]
    (token : Token) : Parser Suffix :=
  match token.kind with
  | .keyword .IS => truthSuffix
  | .symbol .doubleColon => return .cast (← dataType)
  | .keyword .BETWEEN => rangeSuffix inner power negated
  | .keyword .IN => listSuffix inner negated
  | .keyword .LIKE =>
    return .binary (if negated then .notLike else .like) (← inner.expression power)
  | .keyword .ILIKE =>
    return .binary (if negated then .notIlike else .ilike) (← inner.expression power)
  | kind =>
    match binaryOperator? kind with
    | some operator => return .binary operator (← inner.expression power)
    | none => fail (.unexpected .operator kind) token.span

/-- A suffix is read behind the token of its operator, which may stand behind `NOT`. -/
theorem suffix_eq (inner : Rules) (power : Nat) : suffix inner power = (do
    let first ← advance
    let token ← if first.kind = .keyword .NOT then advance else pure first
    suffixBehind inner power (first.kind = .keyword .NOT) token) :=
  rfl

/-- What has a power between two operands is a pattern operator or an operator on its own. -/
theorem operator_of_infixPower? {kind : TokenKind} (power : (infixPower? kind).isSome = true) :
    isPatternOperator kind = true ∨ (binaryOperator? kind).isSome = true := by
  unfold infixPower? at power
  split at power <;> first | exact .inl rfl | exact .inr rfl | cases power

/-- A pattern operator has a power between two operands. -/
theorem infixPower?_of_isPatternOperator {kind : TokenKind}
    (pattern : isPatternOperator kind = true) : (infixPower? kind).isSome = true := by
  unfold isPatternOperator at pattern
  split at pattern <;> first | rfl | cases pattern

/-- What has a power behind an operand is `NOT` before a pattern operator, a test, a cast, or an
operator between two operands. -/
theorem starts_of_suffixPower? {kind next : TokenKind} {power : Nat}
    (starts : suffixPower? kind next = some power) :
    (kind = .keyword .NOT ∧ (infixPower? next).isSome = true) ∨ kind = .keyword .IS ∨
      kind = .symbol .doubleColon ∨ (infixPower? kind).isSome = true := by
  unfold suffixPower? at starts
  split at starts
  · exact .inr (.inl rfl)
  · exact .inr (.inr (.inl rfl))
  · split at starts
    · next pattern => exact .inl ⟨rfl, infixPower?_of_isPatternOperator pattern⟩
    · cases starts
  · exact .inr (.inr (.inr (Option.isSome_of_eq_some starts)))

end Suffixes

section Integers

/-- The integer that a token without a sign stands for. -/
def plainInteger? : TokenKind → Option Int64
  | .integer value => some value
  | _ => none

/-- What an integer is read as behind its sign. -/
def integerBehind (negative : Bool) : Parser Int64 := do
  let cursor ← get
  match cursor.current.kind with
  | .integer value =>
    let _ ← advance
    return if negative then -value else value
  | .numeric _ =>
    if negative && cursor.currentText? == some leastMagnitude then
      let _ ← advance
      return Int64.minValue
    else if cursor.currentText?.any Decimal.isNumeral then
      fail .integerOutOfRange cursor.current.span
    else unexpected .integer
  | _ => unexpected .integer

theorem signedInteger_eq : signedInteger = (do
    let negative ← eatSymbol .minus
    unless negative do
      let _ ← eatSymbol .plus
    integerBehind negative) :=
  rfl

end Integers

section Changes

/-- What a statement changes about a sequence, by the token that comes next. The span of a setting
is named where the setting is refused. -/
def sequenceChangeBy (kind : TokenKind) (setting : Span) : Parser SequenceChange :=
  match kind with
  | .keyword .RENAME => do
    let _ ← advance
    expectKeyword .TO
    return .rename (← expectName)
  | .keyword .OWNER => do
    let _ ← advance
    expectKeyword .TO
    return .owner (← expectName)
  | .keyword .SET => do
    if (← look 1) = .keyword .SCHEMA then
      let _ ← advance
      let _ ← advance
      return .schema (← expectName)
    else fail .unsupportedSequenceSetting setting
  | kind => do
    if kind.isTerminator then unexpected .sequenceOption
    let clauses ← clauses changeClause
    return .options (optionsOf clauses) (restartOf clauses)

theorem sequenceChange_eq : sequenceChange = (do
    let cursor ← get
    sequenceChangeBy cursor.current.kind (cursor.current.span.merge (cursor.peek 1).span)) :=
  rfl

end Changes

end SqlTree.Grammar
