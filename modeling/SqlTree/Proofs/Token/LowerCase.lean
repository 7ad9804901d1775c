import Mathlib.Data.List.Forall2
import SqlTree.Proofs.Token.Folding

/-!
# Lower case

What the table of lower-case letters comes to. Every letter that moves, moves to a letter, and that
one stays where it is: a text in lower case is its own lower case. The capital I with a dot is the
one exception, because its lower case is a letter and a dot, and the dot is no letter.
-/

namespace SqlTree.Text

/-! ## Ranges -/

/-- Whether one of the ranges of an increasing list holds all code points of a range. -/
def encloses : List CodeRange → CodeRange → Bool
  | [], _ => false
  | range :: ranges, inner =>
    Nat.ble range.first inner.first && (Nat.ble inner.last range.last || encloses ranges inner)

theorem covers_of_encloses {ranges : List CodeRange} {inner : CodeRange} {code : Nat}
    (enclosed : encloses ranges inner = true) (low : inner.first ≤ code)
    (high : code ≤ inner.last) : covers ranges code = true := by
  induction ranges with
  | nil => cases enclosed
  | cons range ranges inductionHypothesis =>
      simp only [encloses, Bool.and_eq_true, Bool.or_eq_true, Nat.ble_eq] at enclosed
      obtain ⟨late, inside | others⟩ := enclosed
      · rw [covers, if_neg (by omega), decide_eq_true (Nat.le_trans high inside), Bool.true_or]
      · rw [covers, if_neg (by omega), inductionHypothesis others, Bool.or_true]

/-! ## Runs -/

namespace CaseShift

variable {run other : CaseShift} {code : Nat}

/-- From where to where the code points of a run move. -/
def target (run : CaseShift) : CodeRange :=
  ⟨(run.first + run.shift).toNat, (run.last + run.shift).toNat⟩

/-- Whether no two code points of a run are next to each other. -/
def isSparse (run : CaseShift) : Bool :=
  run.step == 2 || run.first == run.last

/-- Whether a run may have a code point of a range: the two overlap, and it is not so that the run
has every second code point, and the range, if it is sparse, the others. -/
def meets (run : CaseShift) (range : CodeRange) (sparse : Bool) : Bool :=
  Nat.ble run.first range.last && (Nat.ble range.first run.last &&
    !(sparse && run.step == 2 && (range.first + run.first) % 2 == 1))

theorem holds_iff : run.holds code = true ↔
    run.first ≤ code ∧ code ≤ run.last ∧ (code - run.first) % run.step = 0 := by
  simp [holds, and_assoc]

theorem mem_target (held : run.holds code = true) :
    run.target.first ≤ (code + run.shift).toNat ∧ (code + run.shift).toNat ≤ run.target.last := by
  obtain ⟨low, high, _⟩ := holds_iff.mp held
  simp only [target]
  omega

/-- A run that does not meet where the code points of another one move to has none of them. -/
theorem not_holds_of_meets (held : run.holds code = true) (apart : 0 < run.target.first)
    (missed : other.meets run.target run.isSparse = false) :
    other.holds (code + run.shift).toNat = false := by
  obtain ⟨low, high, even⟩ := holds_iff.mp held
  obtain ⟨lowToo, highToo⟩ := mem_target held
  apply Bool.eq_false_iff.mpr
  intro heldToo
  obtain ⟨above, below, evenToo⟩ := holds_iff.mp heldToo
  have overlap : Nat.ble other.first run.target.last = true ∧
      Nat.ble run.target.first other.last = true := by
    simp only [Nat.ble_eq]
    omega
  simp only [meets, overlap, Bool.true_and, Bool.not_eq_false', Bool.and_eq_true, beq_iff_eq]
    at missed
  obtain ⟨⟨sparse, stepToo⟩, odd⟩ := missed
  rw [stepToo] at evenToo
  simp only [target] at apart odd
  simp only [isSparse, Bool.or_eq_true, beq_iff_eq] at sparse
  rcases sparse with step | single
  · rw [step] at even
    omega
  · omega

end CaseShift

/-! ## The table -/

/-- Letters move to letters. -/
theorem encloses_target {run : CaseShift} (listed : run ∈ lowercaseRuns) :
    encloses alphabeticRanges run.target = true := by
  have all : lowercaseRuns.all fun run => encloses alphabeticRanges run.target := by decide +kernel
  exact List.all_eq_true.mp all run listed

/-- No letter moves to one that moves itself. -/
theorem meets_target {run other : CaseShift} (listed : run ∈ lowercaseRuns)
    (listedToo : other ∈ lowercaseRuns) : other.meets run.target run.isSparse = false := by
  have all : (lowercaseRuns.map fun run => (run.target, run.isSparse)).all fun target =>
      lowercaseRuns.all fun other => !other.meets target.1 target.2 := by
    decide +kernel
  have missed := List.all_eq_true.mp all _ (List.mem_map_of_mem listed)
  simpa using List.all_eq_true.mp missed other listedToo

/-- Letters move to characters, none of them the capital I with a dot; and only the letters A to Z
and the Kelvin sign move to the letters a to z. -/
theorem target_bounds {run : CaseShift} (listed : run ∈ lowercaseRuns) : 0 < run.target.first ∧
    (run.target.last < 0xD800 ∨ 0xDFFF < run.target.first ∧ run.target.last < 0x110000) ∧
    (run.target.last < 0x130 ∨ 0x130 < run.target.first) ∧
    (0x80 ≤ run.target.first ∨ run = ⟨0x41, 0x5A, 1, 32⟩ ∨ run = ⟨0x212A, 0x212A, 1, -8383⟩) := by
  have all : ∀ run ∈ lowercaseRuns, 0 < run.target.first ∧
      (run.target.last < 0xD800 ∨ 0xDFFF < run.target.first ∧ run.target.last < 0x110000) ∧
      (run.target.last < 0x130 ∨ 0x130 < run.target.first) ∧
      (0x80 ≤ run.target.first ∨ run = ⟨0x41, 0x5A, 1, 32⟩ ∨
        run = ⟨0x212A, 0x212A, 1, -8383⟩) := by
    decide +kernel
  exact all run listed

/-! ## Characters -/

/-- What a character comes to in lower case: itself, or a letter, which stays where it is. The
letters a to z are the lower case of the letters A to Z and of the Kelvin sign only. -/
structure LowersTo (character image : Char) : Prop where
  letter : image = character ∨ isAlphabetic image = true
  fixed : lowerCharacter image = [image]
  plain : image.toNat < 0x80 → character.toLower = image ∨ character = '\u212A'

section Characters

variable {character : Char}

/-- The capital I with a dot is the only character whose lower case is more than one. -/
theorem lowerCharacter_eq (undotted : character ≠ 'İ') :
    lowerCharacter character =
      match lowercaseRuns.find? fun run => run.holds character.toNat with
      | some run => [Char.ofNat (character.toNat + run.shift).toNat]
      | none => [character] := by
  have unlisted : lowercaseExpansions.find? (fun entry => entry.1 == character.toNat) = none := by
    have other : 0x130 ≠ character.toNat := fun same => undotted (Char.toNat_inj.mp same.symm)
    simp [lowercaseExpansions, other]
  cases found : lowercaseRuns.find? fun run => run.holds character.toNat with
  | none => simp only [lowerCharacter, mapCase, unlisted, found]
  | some run => simp only [lowerCharacter, mapCase, unlisted, found]

/-- The letters A to Z move to the letters a to z. -/
theorem toLower_of_mem_capitals {letter : Char} (capital : letter ∈ capitals) :
    letter.toLower = Char.ofNat (letter.toNat + (32 : Int)).toNat := by
  have all : capitals.all fun letter =>
      letter.toLower = Char.ofNat (letter.toNat + (32 : Int)).toNat := by
    decide
  exact of_decide_eq_true (List.all_eq_true.mp all letter capital)

/-- A letter that a run holds comes to the letter that the run moves it to. -/
theorem lowersTo_of_holds {run : CaseShift} (listed : run ∈ lowercaseRuns)
    (held : run.holds character.toNat = true) :
    LowersTo character (Char.ofNat (character.toNat + run.shift).toNat) := by
  obtain ⟨apart, valid, undotted, plain⟩ := target_bounds listed
  obtain ⟨low, high⟩ := CaseShift.mem_target held
  obtain ⟨least, most, _⟩ := CaseShift.holds_iff.mp held
  have code : (Char.ofNat (character.toNat + run.shift).toNat).toNat =
      (character.toNat + run.shift).toNat := by
    have isValid : (character.toNat + run.shift).toNat.isValidChar := by
      unfold Nat.isValidChar
      omega
    rw [Char.ofNat, dif_pos isValid]
    rfl
  constructor
  · right
    rw [isAlphabetic, code]
    exact covers_of_encloses (encloses_target listed) low high
  · rw [lowerCharacter_eq, code]
    · have unheld : lowercaseRuns.find?
          (fun other => other.holds (character.toNat + run.shift).toNat) = none := by
        apply List.find?_eq_none.mpr
        intro other listedToo
        rw [CaseShift.not_holds_of_meets held apart (meets_target listed listedToo)]
        exact Bool.false_ne_true
      rw [unheld]
    · intro dotted
      have same : (character.toNat + run.shift).toNat = 0x130 := by
        rw [← code, dotted]
        rfl
      omega
  · rw [code]
    intro plainImage
    rcases plain with beyond | rfl | rfl
    · omega
    · left
      exact toLower_of_mem_capitals (mem_capitals least most)
    · right
      apply Char.toNat_inj.mp
      exact Nat.le_antisymm most least

theorem exists_lowersTo (undotted : character ≠ 'İ') :
    ∃ image, lowerCharacter character = [image] ∧ LowersTo character image := by
  have lowered := lowerCharacter_eq undotted
  split at lowered
  · next run found =>
      have held : run.holds character.toNat = true := by simpa using List.find?_some found
      exact ⟨_, lowered, lowersTo_of_holds (List.mem_of_find?_eq_some found) held⟩
  · next unheld =>
      refine ⟨character, lowered, .inl rfl, lowered, fun _ => .inl ?_⟩
      by_contra changes
      have capital := mem_capitals_of_toLower_ne changes
      have held : capitals.all fun letter =>
          lowercaseRuns.any fun run => run.holds letter.toNat := by
        decide
      obtain ⟨run, listed, holds⟩ :=
        List.any_eq_true.mp (List.all_eq_true.mp held character capital)
      exact List.find?_eq_none.mp unheld run listed holds

/-- A mark that is no letter is the lower case of itself only, but for the dot of a capital I. -/
theorem mem_lowerCharacter {mark : Char} (noLetter : isAlphabetic mark = false)
    (noDot : mark ≠ '\u0307') (found : mark ∈ lowerCharacter character) : mark = character := by
  by_cases dotted : character = 'İ'
  · have lowered : lowerCharacter 'İ' = ['i', '\u0307'] := by decide
    rw [dotted, lowered] at found
    rcases List.mem_cons.mp found with rfl | dot
    · exact absurd noLetter (by decide)
    · exact absurd (List.mem_singleton.mp dot) noDot
  · obtain ⟨image, lowered, lowersTo⟩ := exists_lowersTo dotted
    rw [lowered] at found
    cases List.mem_singleton.mp found
    rcases lowersTo.letter with same | letter
    · exact same
    · rw [noLetter] at letter
      cases letter

/-- A character that stays where it is in lower case is no capital letter. -/
theorem toLower_toUpper_of_fixed (fixed : lowerCharacter character = [character]) :
    character.toUpper.toLower = character := by
  have small : character.toLower = character := by
    by_contra changes
    have moves : capitals.all fun letter => lowerCharacter letter ≠ [letter] := by decide
    have capital := mem_capitals_of_toLower_ne changes
    exact of_decide_eq_true (List.all_eq_true.mp moves character capital) fixed
  have letters : ∀ code ∈ List.range' 97 26,
      (Char.ofNat code).toUpper.toLower = Char.ofNat code := by
    decide
  by_cases letter : 'a'.val ≤ character.val ∧ character.val ≤ 'z'.val
  · have low : 97 ≤ character.toNat := letter.1
    have high : character.toNat ≤ 122 := letter.2
    have listed := letters _ (List.mem_range'_1.mpr ⟨low, by omega⟩)
    rwa [Char.ofNat_toNat] at listed
  · unfold Char.toUpper
    rw [dif_neg letter, small]

end Characters

/-! ## Texts -/

section Texts

variable {text : List Char}

/-- Without a capital I with a dot, a text comes to its lower case character by character. -/
theorem forall₂_lowerFrom (before : List Char) (undotted : 'İ' ∉ text) :
    List.Forall₂ LowersTo text (lowerFrom before text) := by
  induction text generalizing before with
  | nil => exact .nil
  | cons character text inductionHypothesis =>
      obtain ⟨other, undottedBehind⟩ := List.ne_and_not_mem_of_not_mem_cons undotted
      have behind := inductionHypothesis (character :: before) undottedBehind
      rw [lowerFrom]
      split
      · next sigma =>
          subst sigma
          split
          · have letter : LowersTo 'Σ' 'ς' :=
              ⟨.inr (by decide), by decide, fun plain => absurd plain (by decide)⟩
            exact .cons letter behind
          · have letter : LowersTo 'Σ' 'σ' :=
              ⟨.inr (by decide), by decide, fun plain => absurd plain (by decide)⟩
            exact .cons letter behind
      · obtain ⟨image, lowered, lowersTo⟩ := exists_lowersTo (Ne.symm other)
        rw [lowered]
        exact .cons lowersTo behind

/-- The lower case of a text starts with a letter, or as the text does. -/
theorem exists_lower_cons (first : Char) (rest : List Char) : ∃ image more,
    lower (first :: rest) = image :: more ∧ (image = first ∨ isAlphabetic image = true) := by
  rw [lower, lowerFrom]
  split
  · split
    · exact ⟨'ς', _, rfl, .inr (by decide)⟩
    · exact ⟨'σ', _, rfl, .inr (by decide)⟩
  · by_cases dotted : first = 'İ'
    · have lowered : lowerCharacter 'İ' = ['i', '\u0307'] := by decide
      rw [dotted, lowered]
      exact ⟨'i', _, rfl, .inr (by decide)⟩
    · obtain ⟨image, lowered, lowersTo⟩ := exists_lowersTo dotted
      rw [lowered]
      exact ⟨image, _, rfl, lowersTo.letter⟩

theorem exists_lowersTo_of_mem_lower (undotted : 'İ' ∉ text) {image : Char}
    (found : image ∈ lower text) : ∃ character ∈ text, LowersTo character image := by
  have images : List.Forall₂ LowersTo text (lower text) := forall₂_lowerFrom [] undotted
  generalize lower text = lowered at images found
  induction images with
  | nil => cases found
  | cons lowersTo _ inductionHypothesis =>
      rcases List.mem_cons.mp found with rfl | behind
      · exact ⟨_, List.mem_cons_self, lowersTo⟩
      · obtain ⟨character, among, lowersToToo⟩ :=
          inductionHypothesis (fun dotted => undotted (List.mem_cons_of_mem _ dotted)) behind
        exact ⟨character, List.mem_cons_of_mem _ among, lowersToToo⟩

/-- Where the lower case has the letters a to z only, it is that of the letters A to Z, but for the
Kelvin sign. -/
theorem map_toLower_eq_lower (undotted : 'İ' ∉ text) (noKelvin : '\u212A' ∉ text)
    (plain : ∀ image ∈ lower text, image.toNat < 0x80) : text.map Char.toLower = lower text := by
  have images : List.Forall₂ LowersTo text (lower text) := forall₂_lowerFrom [] undotted
  generalize lower text = lowered at images plain
  induction images with
  | nil => rfl
  | cons lowersTo _ inductionHypothesis =>
      obtain ⟨otherThanI, undottedBehind⟩ := List.ne_and_not_mem_of_not_mem_cons undotted
      obtain ⟨otherThanK, noKelvinBehind⟩ := List.ne_and_not_mem_of_not_mem_cons noKelvin
      obtain ⟨plainImage, plainBehind⟩ := List.forall_mem_cons.mp plain
      have same := (lowersTo.plain plainImage).resolve_right (Ne.symm otherThanK)
      rw [List.map_cons, same, inductionHypothesis undottedBehind noKelvinBehind plainBehind]

/-- What a character comes to on its own is in the lower case of a text, but for final sigmas. -/
theorem mem_lowerFrom (before : List Char) {character image : Char} (found : character ∈ text)
    (noSigma : character ≠ 'Σ') (lowered : image ∈ lowerCharacter character) :
    image ∈ lowerFrom before text := by
  induction text generalizing before with
  | nil => cases found
  | cons head text inductionHypothesis =>
      rw [lowerFrom]
      apply List.mem_append.mpr
      rcases List.mem_cons.mp found with rfl | behind
      · left
        rwa [if_neg noSigma]
      · right
        exact inductionHypothesis _ behind

/-- A capital I with a dot leaves the dot behind. -/
theorem dot_mem_lower (dotted : 'İ' ∈ text) : '\u0307' ∈ lower text :=
  mem_lowerFrom [] dotted (by decide) (by decide)

/-- Lower case brings in letters only, and the dot of a capital I. -/
theorem mem_of_mem_lowerFrom (before : List Char) {mark : Char}
    (noLetter : isAlphabetic mark = false) (noDot : mark ≠ '\u0307')
    (found : mark ∈ lowerFrom before text) : mark ∈ text := by
  have sigmas : isAlphabetic 'ς' = true ∧ isAlphabetic 'σ' = true := by decide
  induction text generalizing before with
  | nil => exact found
  | cons character text inductionHypothesis =>
      rw [lowerFrom] at found
      rcases List.mem_append.mp found with here | behind
      · split at here
        · split at here
          · rw [List.mem_singleton.mp here, sigmas.1] at noLetter
            cases noLetter
          · rw [List.mem_singleton.mp here, sigmas.2] at noLetter
            cases noLetter
        · rw [mem_lowerCharacter noLetter noDot here]
          exact List.mem_cons_self
      · exact List.mem_cons_of_mem _ (inductionHypothesis _ behind)

/-- Characters that stay where they are make a text that does. -/
theorem lowerFrom_of_fixed (before : List Char)
    (fixed : ∀ character ∈ text, lowerCharacter character = [character]) :
    lowerFrom before text = text := by
  induction text generalizing before with
  | nil => rfl
  | cons character text inductionHypothesis =>
      obtain ⟨stays, others⟩ := List.forall_mem_cons.mp fixed
      have noSigma : character ≠ 'Σ' := by
        rintro rfl
        exact absurd stays (by decide)
      rw [lowerFrom, if_neg noSigma, stays, inductionHypothesis _ others]
      rfl

/-- The lower case of a text is its own lower case. -/
theorem lower_lower (undotted : 'İ' ∉ text) : lower (lower text) = lower text := by
  apply lowerFrom_of_fixed
  intro image found
  obtain ⟨_, _, lowersTo⟩ := exists_lowersTo_of_mem_lower undotted found
  exact lowersTo.fixed

end Texts

end SqlTree.Text
