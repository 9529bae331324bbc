import BuildHook.Proofs.Shape.Trees
import BuildHook.Shape.FromJsonText
import Mathlib.Logic.Function.Basic

/-!
# The fields of a record, one after another

A reader comes upon the values of a record in the order in which they are written, while the decoder
looks for each field among all that is written. Here the reader's way is told on trees, and shown to
come to the same data.

## Main results

`inOrder?_eq` for records that are given in order, and `collect?_bind_settle?` for records that are
given by name.
-/

namespace BuildHook.Shape

open Json (Tree)

variable {tree : Tree}

/-! ## In order -/

/-- The data of the fields from the items that stand in their places. Items behind the last field
are left. -/
def inOrder? : List (Field Shape) → List Tree → Option (List Datum)
  | [], _ => some []
  | field :: fields, trees => do
    let datum ← match trees with
      | tree :: _ => field.content.decode tree
      | [] => field.fallback
    return datum :: (← inOrder? fields trees.tail)

theorem inOrder?_nil (field : Field Shape) (fields : List (Field Shape)) :
    inOrder? (field :: fields) [] = field.fallback.bind fun datum =>
      (inOrder? fields []).bind fun data => some (datum :: data) :=
  rfl

theorem inOrder?_cons (field : Field Shape) (fields : List (Field Shape)) (tree : Tree)
    (trees : List Tree) :
    inOrder? (field :: fields) (tree :: trees) = (field.content.decode tree).bind fun datum =>
      (inOrder? fields trees).bind fun data => some (datum :: data) :=
  rfl

theorem atEndOfList_map {α : Type} {field : Field Shape} (read : Shape → α)
    (trailing : field.trailing = field.fallback.isSome) :
    (field.map read).atEndOfList = field.fallback := by
  unfold Field.atEndOfList Field.map
  rw [trailing]
  cases field.fallback <;> rfl

/-- On the tree: the items in their places are members of the names of the fields. -/
theorem inOrder?_eq {fields : List (Field Shape)} (distinct : (fields.map Field.name).Nodup)
    (trees : List Tree) :
    inOrder? fields trees = fields.mapM (Field.pick? · ((fields.map Field.name).zip trees)) := by
  induction fields generalizing trees with
  | nil => rfl
  | cons field fields ih =>
    rw [List.map_cons, List.nodup_cons] at distinct
    have others (members : List (String × Tree)) (tree : Tree) :
        fields.mapM (Field.pick? · ((field.name, tree) :: members))
          = fields.mapM (Field.pick? · members) := by
      apply mapM_congr
      intro other mem
      rw [Field.pick?, Field.pick?, Json.Tree.valueOf?_cons_of_ne]
      intro same
      exact distinct.1 (same ▸ List.mem_map_of_mem mem)
    cases trees with
    | nil =>
      rw [inOrder?_nil, ih distinct.2, mapM_cons, List.zip_nil_right, List.zip_nil_right]
      simp only [Option.map_eq_bind]
      rfl
    | cons tree trees =>
      have alone : field.pick? ((field.name, tree) :: (fields.map Field.name).zip trees)
          = field.content.decode tree := by
        rw [Field.pick?, Json.Tree.valueOf?_cons_self, Json.Tree.valueOf?_of_not_mem]
        · rfl
        · intro mem
          obtain ⟨⟨name, value⟩, found, rfl⟩ := List.mem_map.mp mem
          exact distinct.1 (List.of_mem_zip found).1
      rw [inOrder?_cons, ih distinct.2, List.map_cons, List.zip_cons_cons, mapM_cons, alone, others]
      simp only [Option.map_eq_bind]
      rfl

/-! ## By name -/

/-- What members add to the data that are known of the fields. A field that is given again, or whose
value is of another form, is refused. -/
def collect? (fields : List (Field Shape)) :
    List (String × Tree) → (String → Option Datum) → Option (String → Option Datum)
  | [], known => some known
  | (name, tree) :: members, known =>
    match fields.find? (·.name == name) with
    | none => collect? fields members known
    | some field =>
      if (known name).isSome then none
      else do
        let datum ← field.content.decode tree
        collect? fields members (Function.update known name (some datum))

/-- What is known of the fields, in their order. -/
def given (fields : List (Field Shape)) (known : String → Option Datum) : List (Option Datum) :=
  fields.map fun field => known field.name

theorem given_join {fields : List (Field Shape)} {field : Field Shape} {position : Nat}
    (found : fields[position]? = some field) (known : String → Option Datum) :
    (given fields known)[position]?.join = known field.name := by
  rw [given, List.getElem?_map, found]
  rfl

theorem given_set {fields : List (Field Shape)} (distinct : (fields.map Field.name).Nodup)
    {field : Field Shape} {position : Nat} (found : fields[position]? = some field)
    (known : String → Option Datum) (datum : Datum) :
    (given fields known).set position (some datum)
      = given fields (Function.update known field.name (some datum)) := by
  apply List.ext_getElem?
  intro i
  rw [List.getElem?_set, given, given, List.getElem?_map, List.getElem?_map, List.length_map]
  have inside := (List.getElem?_eq_some_iff.mp found).1
  by_cases own : position = i
  · subst own
    rw [if_pos rfl, if_pos inside, found]
    simp
  · rw [if_neg own]
    cases other : fields[i]? with
    | none => rfl
    | some field' =>
      have ne : field'.name ≠ field.name := by
        intro same
        apply own
        apply (List.getElem?_inj (List.length_map Field.name ▸ inside) distinct).mp
        rw [List.getElem?_map, List.getElem?_map, found, other, Option.map_some, Option.map_some,
          same]
      simp [Function.update_of_ne ne]

/-- The field of a name and its position are found together. -/
theorem find_cases (fields : List (Field Shape)) (name : String) :
    (fields.findIdx? (·.name == name) = none ∧ fields.find? (·.name == name) = none) ∨
      ∃ position field, fields.findIdx? (·.name == name) = some position ∧
        fields.find? (·.name == name) = some field ∧ fields[position]? = some field ∧
        field.name = name := by
  induction fields with
  | nil => exact .inl ⟨rfl, rfl⟩
  | cons field fields ih =>
    rw [List.findIdx?_cons, List.find?_cons]
    by_cases own : field.name = name
    · subst own
      exact .inr ⟨0, field, by simp⟩
    · have other : (field.name == name) = false := by simpa using own
      rw [other]
      rcases ih with ⟨none, none'⟩ | ⟨position, found, index, search, place, name'⟩
      · exact .inl ⟨by rw [none]; rfl, none'⟩
      · exact .inr ⟨position + 1, found, by rw [index]; rfl, search, place, name'⟩

/-- The data of the fields when nothing more is to come: what is known, or what a field falls back
to. -/
def settle? (fields : List (Field Shape)) (known : String → Option Datum) : Option (List Datum) :=
  fields.mapM fun field => (known field.name).or field.fallback

theorem toOption_complete (fields : List (Field Shape)) (known : String → Option Datum) :
    (complete (fields.map (Field.map Shape.reader)) (given fields known)).toOption
      = settle? fields known := by
  induction fields with
  | nil => rfl
  | cons field fields ih =>
    rw [settle?] at ih ⊢
    rw [mapM_cons, ← ih, given, List.map_cons, List.map_cons, complete, List.head?_cons,
      Option.join_some, List.tail_cons, ← given]
    generalize complete (fields.map (Field.map Shape.reader)) (given fields known) = others
    have fallback : (field.map Shape.reader).fallback = field.fallback := rfl
    rw [fallback]
    cases known field.name with
    | some datum => cases others <;> rfl
    | none =>
      cases field.fallback with
      | some datum => cases others <;> rfl
      | none => rfl

/-- What members give for a field of which something may be known already. -/
def later? (known : String → Option Datum) (members : List (String × Tree))
    (field : Field Shape) : Option Datum :=
  match known field.name, Tree.valueOf? field.name members with
  | some datum, some none => some datum
  | none, some (some tree) => field.content.decode tree
  | none, some none => field.fallback
  | _, _ => none

section Later

variable {known : String → Option Datum} {members : List (String × Tree)} {field : Field Shape}
variable {name : String} {datum : Datum}

theorem later?_cons_of_ne (ne : name ≠ field.name) :
    later? known ((name, tree) :: members) field = later? known members field := by
  rw [later?, later?, Tree.valueOf?_cons_of_ne ne]

/-- A field that is known may not be given again. -/
theorem later?_again (again : known field.name = some datum) :
    later? known ((field.name, tree) :: members) field = none := by
  rw [later?, again, Tree.valueOf?_cons_self]
  rcases Tree.valueOf? field.name members with _ | _ | _ <;> rfl

theorem later?_unfit (fresh : known field.name = none) (unfit : field.content.decode tree = none) :
    later? known ((field.name, tree) :: members) field = none := by
  rw [later?, fresh, Tree.valueOf?_cons_self]
  rcases Tree.valueOf? field.name members with _ | _ | _
  · rfl
  · exact unfit
  · rfl

/-- What a member gives for a field becomes known. -/
theorem later?_fit (fresh : known field.name = none)
    (fit : field.content.decode tree = some datum) :
    later? known ((field.name, tree) :: members) field
      = later? (Function.update known field.name (some datum)) members field := by
  rw [later?, later?, fresh, Tree.valueOf?_cons_self, Function.update_self]
  rcases Tree.valueOf? field.name members with _ | _ | _
  · rfl
  · exact fit
  · rfl

theorem later?_update_of_ne (ne : field.name ≠ name) :
    later? (Function.update known name (some datum)) members field
      = later? known members field := by
  rw [later?, later?, Function.update_of_ne ne]

end Later

/-- On the tree: reading member after member comes to the same as looking for each field. -/
theorem collect?_bind_settle? {fields : List (Field Shape)}
    (distinct : (fields.map Field.name).Nodup) (members : List (String × Tree))
    (known : String → Option Datum) :
    (collect? fields members known).bind (settle? fields)
      = fields.mapM (later? known members) := by
  induction members generalizing known with
  | nil =>
    apply mapM_congr
    intro field _
    unfold later?
    cases known field.name <;> rfl
  | cons member members ih =>
    obtain ⟨name, tree⟩ := member
    rw [collect?]
    rcases find_cases fields name with ⟨-, found⟩ | ⟨position, field, -, found, place, rfl⟩
    · rw [found]
      dsimp only
      rw [ih]
      apply mapM_congr
      intro field mem
      have ne : name ≠ field.name := by
        rintro rfl
        simpa using List.find?_eq_none.mp found field mem
      exact (later?_cons_of_ne ne).symm
    · have mem := List.mem_of_getElem? place
      rw [found]
      dsimp only
      cases known' : known field.name with
      | some datum => rw [mapM_eq_none mem (later?_again known')]; rfl
      | none =>
        cases own : field.content.decode tree with
        | none => rw [mapM_eq_none mem (later?_unfit known' own)]; rfl
        | some datum =>
          show (collect? fields members _).bind (settle? fields) = _
          rw [ih]
          apply mapM_congr
          intro other mem'
          by_cases same : other.name = field.name
          · have eq : other = field := List.inj_on_of_nodup_map distinct mem' mem same
            subst eq
            exact (later?_fit known' own).symm
          · rw [later?_update_of_ne same, later?_cons_of_ne (Ne.symm same)]

end BuildHook.Shape
