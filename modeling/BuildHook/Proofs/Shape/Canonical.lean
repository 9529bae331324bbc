import BuildHook.Proofs.Json.Canonical
import BuildHook.Proofs.Shape.Trees

/-!
# Shapes and the canonical form

A value without repeated names holds the same by every shape as its canonical form: the members are
the same, and no shape sees their order.

## Main results

`alike_canonical`, by induction on the value.
-/

namespace BuildHook.Shape

open Json (Tree IsPlain)

/-- Two trees that hold the same by every shape. -/
def Alike (tree tree' : Tree) : Prop :=
  ∀ shape : Shape, shape.isPlain = true → shape.decode tree = shape.decode tree'

theorem Alike.trans {tree middle tree' : Tree} (front : Alike tree middle)
    (back : Alike middle tree') : Alike tree tree' :=
  fun shape plain => (front shape plain).trans (back shape plain)

/-- Objects are told apart by records alone. -/
theorem alike_object {members members' : List (String × Tree)}
    (same : ∀ title fields, (record title fields).isPlain = true →
      (record title fields).decode (.object members)
        = (record title fields).decode (.object members')) :
    Alike (.object members) (.object members')
  | .text _, _ => rfl
  | .natural, _ => rfl
  | .optional inner, plain => alike_object same inner plain
  | .list _, _ => rfl
  | .record title fields, plain => same title fields plain

/-- Arrays are told apart by lists and records alone. -/
theorem alike_array {items items' : List Tree}
    (list : ∀ inner : Shape, inner.isPlain = true →
      items.mapM inner.decode = items'.mapM inner.decode)
    (same : ∀ title fields, (record title fields).isPlain = true →
      (record title fields).decode (.array items) = (record title fields).decode (.array items')) :
    Alike (.array items) (.array items')
  | .text _, _ => rfl
  | .natural, _ => rfl
  | .optional inner, plain => alike_array list same inner plain
  | .list inner, plain => congrArg (Option.map Datum.list) (list inner plain)
  | .record title fields, plain => same title fields plain

/-- Members of the same names with values that hold the same. -/
abbrev SameMember (member member' : String × Tree) : Prop :=
  member.1 = member'.1 ∧ Alike member.2 member'.2

theorem mapM_pick?_congr {fields : List (Field Shape)} {title : String}
    (plain : (record title fields).isPlain = true) {members members' : List (String × Tree)}
    (same : List.Forall₂ SameMember members members') :
    fields.mapM (Field.pick? · members) = fields.mapM (Field.pick? · members') := by
  apply mapM_congr
  intro field mem
  apply Field.pick?_congr
  refine same.imp fun member member' related => ⟨related.1, fun _ => ?_⟩
  exact related.2 field.content ((isPlain_record.mp plain).2 field mem).2

theorem alike_object_of_forall {members members' : List (String × Tree)}
    (same : List.Forall₂ SameMember members members') :
    Alike (.object members) (.object members') := by
  apply alike_object
  intro title fields plain
  rw [decode_record, decode_record]
  simp only [Json.Tree.members?, Option.bind_some, mapM_pick?_congr plain same]

theorem forall_zip {items items' : List Tree} (same : List.Forall₂ Alike items items')
    (names : List String) :
    List.Forall₂ SameMember (names.zip items) (names.zip items') := by
  induction same generalizing names with
  | nil =>
    rw [List.zip_nil_right]
    exact .nil
  | cons alike _ ih =>
    cases names with
    | nil => exact .nil
    | cons name names => exact .cons ⟨rfl, alike⟩ (ih names)

theorem alike_array_of_forall {items items' : List Tree} (same : List.Forall₂ Alike items items') :
    Alike (.array items) (.array items') := by
  apply alike_array
  · intro inner plain
    induction same with
    | nil => rfl
    | cons alike _ ih => rw [mapM_cons, mapM_cons, alike inner plain, ih]
  · intro title fields plain
    rw [decode_record, decode_record]
    simp only [Json.Tree.members?, same.length_eq]
    split
    · rw [Option.bind_some, Option.bind_some, mapM_pick?_congr plain (forall_zip same _)]
    · rfl

/-- A value holds the same in its canonical form. -/
theorem alike_canonical {value : Json} (plain : value.IsPlain) :
    Alike value.canonical.tree value.tree := by
  induction plain with
  | null => exact fun _ _ => rfl
  | bool b => exact fun _ _ => rfl
  | string s => exact fun _ _ => rfl
  | @array elements _ ih =>
    rw [Json.canonical, Json.canonicalElements_eq, Json.tree, Json.tree, Json.elementTrees_eq,
      Json.elementTrees_eq, List.map_map]
    apply alike_array_of_forall
    rw [List.forall₂_map_left_iff, List.forall₂_map_right_iff, List.forall₂_same]
    exact ih
  | @object members distinct _ ih =>
    have perm : (Json.canonicalMembers [] members).Perm
        (members.map fun member => (member.1, member.2.canonical)) :=
      Json.canonicalMembers_perm distinct
    rw [Json.canonical, Json.tree, Json.tree, Json.memberTrees_eq, Json.memberTrees_eq]
    have reordered : Alike
        (.object ((Json.canonicalMembers [] members).map fun member => (member.1, member.2.tree)))
        (.object (members.map fun member => (member.1, member.2.canonical.tree))) := by
      apply alike_object
      intro title fields plain
      have trees := perm.map fun member => (member.1, member.2.tree)
      rw [List.map_map] at trees
      exact Varies.decode_eq plain (.reorder trees)
    apply reordered.trans
    apply alike_object_of_forall
    rw [List.forall₂_map_left_iff, List.forall₂_map_right_iff, List.forall₂_same]
    exact fun member mem => ⟨rfl, ih member mem⟩

end BuildHook.Shape
