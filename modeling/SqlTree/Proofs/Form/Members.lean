import Mathlib.Data.List.Nodup
import SqlTree.Form.Decode

/-!
# Members of objects

A member is found by its name among others, and lies less deep than its object. From what is found
follows what a reader makes of the object.
-/

namespace SqlTree

namespace Json

variable {name other : String} {value : Json} {members others : List (String × Json)}

@[simp] theorem find?_nil : (Json.object []).find? name = none := rfl

@[simp] theorem find?_cons : (Json.object ((other, value) :: members)).find? name =
    if other = name then some value else (Json.object members).find? name := by
  by_cases same : other = name <;> simp [find?, same]

@[simp] theorem find?_append : (Json.object (members ++ others)).find? name =
    ((Json.object members).find? name).or ((Json.object others).find? name) := by
  simp [find?, List.find?_append, Option.map_or]

@[simp] theorem find?_member? {value : Option Json} :
    (Json.object (member? other value)).find? name = if other = name then value else none := by
  cases value with
  | none => simp [member?]
  | some value => simp [member?]

@[simp] theorem find?_flag {value : Bool} : (Json.object (flag other value)).find? name =
    if other = name then if value then some (.bool true) else none else none := by
  cases value with
  | false => simp [flag]
  | true => simp [flag]

@[simp] theorem find?_items? {items : List Json} : (Json.object (items? other items)).find? name =
    if other = name then if items.isEmpty then none else some (.array items) else none := by
  unfold items?
  split <;> simp [*]

/-- Members of one name alone are passed over in the search for another. -/
theorem find?_append_of_forall {front : List (String × Json)}
    (alone : ∀ entry ∈ front, entry.1 = other) (different : other ≠ name) :
    (Json.object (front ++ members)).find? name = (Json.object members).find? name := by
  have missed : (Json.object front).find? name = none := by
    rw [find?, Option.map_eq_none_iff, List.find?_eq_none]
    intro entry among
    rw [alone entry among, beq_iff_eq]
    exact different
  rw [find?_append, missed, Option.none_or]

/-- What a node holds is found among its members, its kind apart. -/
theorem find?_of_nodeForm {kind : String} {object : Json} (shape : nodeForm kind members = object)
    (different : "type" ≠ name) : object.find? name = (Json.object members).find? name := by
  rw [← shape, nodeForm, find?_cons, if_neg different]

/-- No item lies deeper than the deepest. -/
theorem depth_le_itemsDepth {items : List Json} (among : value ∈ items) :
    value.depth ≤ itemsDepth items := by
  induction among with
  | head => exact Nat.le_max_left _ _
  | tail _ _ inductionHypothesis => exact Nat.le_trans inductionHypothesis (Nat.le_max_right _ _)

theorem depth_le_membersDepth (among : (name, value) ∈ members) :
    value.depth ≤ membersDepth members := by
  induction members with
  | nil => cases among
  | cons entry members inductionHypothesis =>
      obtain ⟨first, found⟩ := entry
      rw [membersDepth]
      rcases List.mem_cons.mp among with same | behind
      · cases same
        exact Nat.le_max_left _ _
      · exact Nat.le_trans (inductionHypothesis behind) (Nat.le_max_right _ _)

/-- What is found in an object lies less deep than the object. -/
theorem depth_lt_of_find? {object : Json} (found : object.find? name = some value) :
    value.depth < object.depth := by
  cases object with
  | object members =>
      obtain ⟨entry, first, rfl⟩ := Option.map_eq_some_iff.mp found
      rw [depth]
      exact Nat.lt_succ_of_le (depth_le_membersDepth (List.mem_of_find?_eq_some first))
  | _ => cases found

/-- An item of an array that is found in an object lies less deep than the object. -/
theorem item_depth_lt_of_find? {object : Json} {items : List Json}
    (found : object.find? name = some (.array items)) (among : value ∈ items) :
    value.depth < object.depth := by
  have below := depth_lt_of_find? found
  have item := depth_le_itemsDepth among
  rw [depth] at below
  omega

end Json

namespace Decoder

open Json

variable {α β : Type} {decoder : Decoder β} {form : α → Json} {image : α → β} {name : String}
  {object : Json}

/-- Items that are read one by one are read as a list. -/
theorem list_map {parts : List α}
    (each : ∀ part ∈ parts, decoder (form part) = some (image part)) :
    list decoder (.array (parts.map form)) = some (parts.map image) := by
  induction parts with
  | nil => rfl
  | cons part parts inductionHypothesis =>
      obtain ⟨first, others⟩ := List.forall_mem_cons.mp each
      have behind := inductionHypothesis others
      rw [list] at behind ⊢
      rw [List.map_cons, List.mapM_cons, first, behind]
      rfl

/-- A member that is found is read. -/
theorem required_of_find? {found : Json} {value : β} (there : object.find? name = some found)
    (read : found.depth < object.depth → decoder found = some value) :
    required name decoder object = some value := by
  rw [required, there, Option.bind_some, read (depth_lt_of_find? there)]

theorem defaulted_of_find? {found : Json} {value default : β}
    (there : object.find? name = some found) (read : decoder found = some value) :
    defaulted name default decoder object = some value := by
  simp only [defaulted, there, read]

theorem required_list_of_find? {parts : List α}
    (there : object.find? name = some (.array (parts.map form)))
    (each : ∀ part ∈ parts, (form part).depth < object.depth →
      decoder (form part) = some (image part)) :
    required name (list decoder) object = some (parts.map image) :=
  required_of_find? there fun _ => list_map fun part among =>
    each part among (item_depth_lt_of_find? there (List.mem_map_of_mem among))

/-- A list that is left out where it is empty is read. -/
theorem defaulted_list_of_find? {parts : List α}
    (there : object.find? name =
      if (parts.map form).isEmpty then none else some (.array (parts.map form)))
    (each : ∀ part ∈ parts, (form part).depth < object.depth →
      decoder (form part) = some (image part)) :
    defaulted name [] (list decoder) object = some (parts.map image) := by
  cases parts with
  | nil => simp only [defaulted, there, List.map_nil, List.isEmpty_nil, if_true]
  | cons part parts =>
      have found : object.find? name = some (.array ((part :: parts).map form)) := there
      simp only [defaulted, found]
      exact list_map fun part among =>
        each part among (item_depth_lt_of_find? found (List.mem_map_of_mem among))

/-- A truth value that is left out where it is false is read. -/
theorem defaulted_bool_of_find? {value : Bool}
    (there : object.find? name = if value then some (.bool true) else none) :
    defaulted name false bool object = some value := by
  cases value with
  | false => simp [defaulted, there]
  | true => simp [defaulted, there, bool]

/-- A part that may be absent is read, if it is not written as null. -/
theorem nullable_of_find? {part? : Option α} (there : object.find? name = part?.map form)
    (plain : ∀ part, form part ≠ .null)
    (read : ∀ part, part? = some part → (form part).depth < object.depth →
      decoder (form part) = some (image part)) :
    nullable name decoder object = some (part?.map image) := by
  cases part? with
  | none =>
      rw [Option.map_none] at there
      simp only [nullable, there, Option.map_none]
  | some part =>
      rw [Option.map_some] at there
      have value := read part rfl (depth_lt_of_find? there)
      unfold nullable
      rw [there]
      split
      · next missing => cases missing
      · next null => exact absurd (Option.some.inj null) (plain part)
      · next found =>
          cases found
          rw [value]
          rfl

theorem present_of_find? {part? : Option α} (there : object.find? name = part?.map form)
    (read : ∀ part, decoder (form part) = some (image part)) :
    present name decoder object = some (part?.map image) := by
  cases part? with
  | none =>
      rw [Option.map_none] at there
      simp only [present, defaulted, there, Option.map_none]
  | some part =>
      rw [Option.map_some] at there
      simp only [present, defaulted, there, read, Option.map_some]

/-- A spelling that no two values share is read as its value. -/
theorem spelled_of_nodup {values : List α} {spelling : α → String} {value : α}
    (distinct : (values.map spelling).Nodup) (among : value ∈ values) :
    spelled values spelling (.string (spelling value)) = some value := by
  rw [spelled]
  cases found : values.find? fun other => spelling other == spelling value with
  | none =>
      have missed := List.find?_eq_none.mp found value among
      exact absurd (beq_self_eq_true _) missed
  | some other =>
      have same := List.find?_some found
      rw [beq_iff_eq] at same
      rw [List.inj_on_of_nodup_map distinct (List.mem_of_find?_eq_some found) among same]

theorem bigint_bigintForm (value : Int64) : bigint (bigintForm value) = some value := by
  have lower := value.le_toInt
  have upper := value.toInt_lt
  rw [bigintForm, bigint, if_pos (by omega), Int64.ofInt_toInt]

end Decoder

end SqlTree
