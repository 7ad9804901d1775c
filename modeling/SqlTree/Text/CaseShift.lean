/-!
# Case maps

A map between the cases of letters is kept as a list of runs: the code points of a run are evenly
spaced and all move by the same distance. Letters whose other case is more than one character are
listed apart.
-/

namespace SqlTree.Text

/-- The code points `first`, `first + step`, and so on up to `last`, which all move by `shift`. -/
structure CaseShift where
  first : Nat
  last : Nat
  step : Nat
  shift : Int
deriving DecidableEq, Repr

/-- Whether a run holds a code point. -/
def CaseShift.holds (run : CaseShift) (code : Nat) : Bool :=
  run.first ≤ code && code ≤ run.last && (code - run.first) % run.step == 0

/-- The other case of a character: its own list of characters if it has one, else its code point
moved by the run that holds it, else itself. -/
def mapCase (runs : List CaseShift) (expansions : List (Nat × List Nat)) (character : Char) :
    List Char :=
  match expansions.find? fun entry => entry.1 == character.toNat with
  | some (_, codes) => codes.map Char.ofNat
  | none =>
    match runs.find? fun run => run.holds character.toNat with
    | some run => [Char.ofNat (character.toNat + run.shift).toNat]
    | none => [character]

end SqlTree.Text
