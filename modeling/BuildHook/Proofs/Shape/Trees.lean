import BuildHook.Proofs.Json.Grammar
import BuildHook.Proofs.List.Entries
import BuildHook.Shape.Basic
import Mathlib.Data.List.Forall2
import Mathlib.Data.List.Nodup

/-!
# What a tree holds by a shape

The datum that a tree holds, told without regard to any text: a record takes the value of each field
from the one member of its name, or from the item in its place, and what it falls back to where
there is none. So the order of members is of no account, nor are members of other names.

## Main results

`Varies` collects the changes of a tree that a shape does not see, and `Varies.decode_eq` says that
they leave the datum as it is.
-/

namespace BuildHook

open Json (Tree)

/-- What reads a tree: the datum that it holds, if it is of the right form. -/
abbrev Decoder := Tree → Option Datum

/-- The members among which a record finds its fields. An object has its own; the items of an array
stand for the fields in order, and there may not be more of them. -/
def Json.Tree.members? (names : List String) : Tree → Option (List (String × Tree))
  | .object members => some members
  | .array items => if items.length ≤ names.length then some (names.zip items) else none
  | _ => none

/-- The value that members give for a name, if any. More than one is refused. -/
def Json.Tree.valueOf? (name : String) (members : List (String × Tree)) : Option (Option Tree) :=
  match members.filter (·.1 == name) with
  | [] => some none
  | [(_, tree)] => some (some tree)
  | _ => none

open Json.Tree (valueOf?)

namespace Shape

/-- A text. -/
def text? : Decoder
  | .string s => some (.text s)
  | _ => none

/-- `null` for what is absent, and anything else as the inner decoder has it. -/
def optional? (inner : Decoder) : Decoder
  | .null => some .absent
  | tree => inner tree

/-- An array of items. -/
def list? (inner : Decoder) : Decoder
  | .array items => (items.mapM inner).map Datum.list
  | _ => none

/-- A record. -/
def record? (fields : List (Field Decoder)) : Decoder := fun tree => do
  let members ← tree.members? (fields.map Field.name)
  let data ← fields.mapM fun field => do
    match ← valueOf? field.name members with
    | some tree => field.content tree
    | none => field.fallback
  return .record data

mutual

/-- The datum that a tree holds by a shape. Shapes with numbers are left out. -/
def decode : Shape → Decoder
  | .text _ => text?
  | .natural => fun _ => none
  | .optional inner => optional? inner.decode
  | .list inner => list? inner.decode
  | .record _ fields => record? (fieldDecoders fields)

/-- The decoders of the fields of a record. -/
def fieldDecoders : List (Field Shape) → List (Field Decoder)
  | [] => []
  | ⟨name, fallback, trailing, content⟩ :: rest =>
      ⟨name, fallback, trailing, content.decode⟩ :: fieldDecoders rest

end

mutual

/-- Whether a shape has no numbers, all its records have different names for their fields, and what
may be left out of a record given by name may be left off the end of one given in order. -/
def isPlain : Shape → Bool
  | .text _ => true
  | .natural => false
  | .optional inner => inner.isPlain
  | .list inner => inner.isPlain
  | .record _ fields => decide (fields.map Field.name).Nodup && arePlain fields

/-- `isPlain` for each field. -/
def arePlain : List (Field Shape) → Bool
  | [] => true
  | ⟨_, fallback, trailing, content⟩ :: rest =>
      trailing == fallback.isSome && content.isPlain && arePlain rest

end

end Shape

/-- The field with another content. -/
def Field.map {α β : Type} (f : α → β) (field : Field α) : Field β :=
  ⟨field.name, field.fallback, field.trailing, f field.content⟩

/-- What the members of a record give for a field. -/
def Field.pick? (field : Field Shape) (members : List (String × Tree)) : Option Datum := do
  match ← valueOf? field.name members with
  | some tree => field.content.decode tree
  | none => field.fallback

namespace Json.Tree

variable {name other : String} {tree : Tree} {members : List (String × Tree)}

theorem valueOf?_cons_of_ne (ne : other ≠ name) :
    valueOf? name ((other, tree) :: members) = valueOf? name members := by
  rw [valueOf?, List.filter_cons_of_neg (by simpa using ne)]
  rfl

theorem valueOf?_of_not_mem (absent : name ∉ members.map Prod.fst) :
    valueOf? name members = some none := by
  have none : members.filter (·.1 == name) = [] := by
    rw [List.filter_eq_nil_iff]
    intro member mem own
    exact absent (List.mem_map.mpr ⟨member, mem, by simpa using own⟩)
  rw [valueOf?, none]

/-- A member is the value of its name unless another one follows. -/
theorem valueOf?_cons_self : valueOf? name ((name, tree) :: members)
    = match valueOf? name members with
      | some none => some (some tree)
      | _ => none := by
  rw [valueOf?, List.filter_cons_of_pos (by simp)]
  unfold valueOf?
  generalize members.filter (·.1 == name) = own
  match own with
  | [] => rfl
  | [_] => rfl
  | _ :: _ :: _ => rfl

theorem valueOf?_perm {members' : List (String × Tree)} (perm : members.Perm members') :
    valueOf? name members = valueOf? name members' := by
  have filtered := perm.filter (·.1 == name)
  rw [valueOf?, valueOf?]
  generalize members.filter (·.1 == name) = own at filtered
  generalize members'.filter (·.1 == name) = own' at filtered
  have same := filtered.length_eq
  match own, own', filtered, same with
  | [], [], _, _ => rfl
  | [_], [_], filtered, _ => rw [List.perm_singleton.mp filtered]
  | _ :: _ :: _, _ :: _ :: _, _, _ => rfl

/-- Members of the same names give values that are related like those members. -/
theorem valueOf?_congr {R : Tree → Tree → Prop} {members' : List (String × Tree)}
    (agree : List.Forall₂ (fun member member' => member.1 = member'.1 ∧
      (member.1 = name → R member.2 member'.2)) members members') :
    Option.Rel (Option.Rel R) (valueOf? name members) (valueOf? name members') := by
  induction agree with
  | nil => exact .some .none
  | @cons member member' members members' same _ ih =>
    obtain ⟨own, tree⟩ := member
    obtain ⟨own', tree'⟩ := member'
    obtain ⟨rfl, same⟩ := same
    by_cases eq : own = name
    · subst eq
      rw [valueOf?_cons_self, valueOf?_cons_self]
      revert ih
      generalize valueOf? own members = value
      generalize valueOf? own members' = value'
      intro ih
      cases ih with
      | none => exact .none
      | some rel =>
        cases rel with
        | none => exact .some (.some (same rfl))
        | some => exact .none
    · rw [valueOf?_cons_of_ne eq, valueOf?_cons_of_ne eq]
      exact ih

end Json.Tree

/-- Members of the same names give the same for a field if their values hold the same for it. -/
theorem Field.pick?_congr {field : Field Shape} {members members' : List (String × Tree)}
    (agree : List.Forall₂ (fun member member' => member.1 = member'.1 ∧ (member.1 = field.name →
      field.content.decode member.2 = field.content.decode member'.2)) members members') :
    field.pick? members = field.pick? members' := by
  have rel := Json.Tree.valueOf?_congr (R := fun tree tree' =>
    field.content.decode tree = field.content.decode tree') agree
  rw [pick?, pick?]
  revert rel
  generalize valueOf? field.name members = value
  generalize valueOf? field.name members' = value'
  intro rel
  cases rel with
  | none => rfl
  | some rel =>
    cases rel with
    | none => rfl
    | some same => exact same

namespace Shape

theorem fieldDecoders_eq (fields : List (Field Shape)) :
    fieldDecoders fields = fields.map (Field.map decode) := by
  induction fields with
  | nil => rfl
  | cons field fields ih => rw [fieldDecoders, ih]; rfl

theorem arePlain_iff {fields : List (Field Shape)} : arePlain fields = true ↔
    ∀ field ∈ fields, field.trailing = field.fallback.isSome ∧ field.content.isPlain = true := by
  induction fields with
  | nil => simp [arePlain]
  | cons field fields ih => simp [arePlain, ih, and_assoc]

theorem isPlain_record {title : String} {fields : List (Field Shape)} :
    (record title fields).isPlain = true ↔ (fields.map Field.name).Nodup ∧
      ∀ field ∈ fields, field.trailing = field.fallback.isSome ∧ field.content.isPlain = true := by
  rw [isPlain, Bool.and_eq_true, decide_eq_true_iff, arePlain_iff]

theorem decode_record (title : String) (fields : List (Field Shape)) (tree : Tree) :
    (record title fields).decode tree = (tree.members? (fields.map Field.name)).bind fun members =>
      (fields.mapM (Field.pick? · members)).map Datum.record := by
  have names : (fields.map (Field.map decode)).map Field.name = fields.map Field.name := by
    rw [List.map_map]
    rfl
  rw [decode, record?, fieldDecoders_eq, names]
  simp only [List.mapM_map]
  cases tree.members? (fields.map Field.name) with
  | none => rfl
  | some members =>
    show Option.bind _ _ = Option.map _ _
    rw [Option.map_eq_bind]
    rfl

/-! ## Changes that a shape does not see -/

/-- Two trees that differ, at any depth, only in the order of members and in members of names that
the shape does not know. -/
inductive Varies : Shape → Tree → Tree → Prop
  | refl {shape tree} : Varies shape tree tree
  | symm {shape tree tree'} : Varies shape tree tree' → Varies shape tree' tree
  | trans {shape tree middle tree'} : Varies shape tree middle → Varies shape middle tree' →
      Varies shape tree tree'
  | reorder {title fields members members'} : members.Perm members' →
      Varies (.record title fields) (.object members) (.object members')
  | insert {title fields name value members} : name ∉ fields.map Field.name →
      Varies (.record title fields) (.object members) (.object ((name, value) :: members))
  | member {title fields field front back tree tree'} : field ∈ fields →
      Varies field.content tree tree' →
      Varies (.record title fields) (.object (front ++ (field.name, tree) :: back))
        (.object (front ++ (field.name, tree') :: back))
  | place {title fields field front back tree tree'} : fields[front.length]? = some field →
      Varies field.content tree tree' →
      Varies (.record title fields) (.array (front ++ tree :: back))
        (.array (front ++ tree' :: back))
  | item {inner front back tree tree'} : Varies inner tree tree' →
      Varies (.list inner) (.array (front ++ tree :: back)) (.array (front ++ tree' :: back))
  | present {inner tree tree'} : Varies inner tree tree' → Varies (.optional inner) tree tree'

theorem Varies.eq_null_iff {shape : Shape} {tree tree' : Tree} (varies : Varies shape tree tree') :
    tree = .null ↔ tree' = .null := by
  induction varies with
  | refl => exact Iff.rfl
  | symm _ ih => exact ih.symm
  | trans _ _ ih ih' => exact ih.trans ih'
  | present _ ih => exact ih
  | _ => exact ⟨nofun, nofun⟩

theorem optional?_of_ne {inner : Decoder} {tree : Tree} (ne : tree ≠ .null) :
    optional? inner tree = inner tree := by
  cases tree with
  | null => exact absurd rfl ne
  | _ => rfl

/-- A member whose value is exchanged for one that holds the same is of no account. -/
theorem pick?_exchange {fields : List (Field Shape)} (distinct : (fields.map Field.name).Nodup)
    {field other : Field Shape} (mem : field ∈ fields) (mem' : other ∈ fields) {tree tree' : Tree}
    (same : field.content.decode tree = field.content.decode tree')
    (front back : List (String × Tree)) :
    other.pick? (front ++ (field.name, tree) :: back)
      = other.pick? (front ++ (field.name, tree') :: back) := by
  apply Field.pick?_congr
  have unchanged (members : List (String × Tree)) :
      List.Forall₂ (fun member member' => member.1 = member'.1 ∧ (member.1 = other.name →
        other.content.decode member.2 = other.content.decode member'.2)) members members :=
    List.forall₂_same.mpr fun member _ => ⟨rfl, fun _ => rfl⟩
  apply List.rel_append (unchanged front)
  refine .cons ⟨rfl, fun own => ?_⟩ (unchanged back)
  have eq : field = other := List.inj_on_of_nodup_map distinct mem mem' own
  rw [← eq]
  exact same

/-- The item in the place of a name stands beside this name. -/
theorem exists_zip_eq {names : List String} {name : String} {front : List Tree}
    (found : names[front.length]? = some name) (back : List Tree) :
    ∃ before behind, ∀ tree,
      names.zip (front ++ tree :: back) = before ++ (name, tree) :: behind := by
  induction front generalizing names with
  | nil =>
    obtain ⟨names, rfl⟩ : ∃ rest, names = name :: rest := by
      cases names with
      | nil => cases found
      | cons other names => exact ⟨names, by rw [Option.some.inj found]⟩
    exact ⟨[], names.zip back, fun tree => rfl⟩
  | cons item front ih =>
    cases names with
    | nil => cases found
    | cons other names =>
      obtain ⟨before, behind, split⟩ := ih found
      refine ⟨(other, item) :: before, behind, fun tree => ?_⟩
      rw [List.cons_append, List.zip_cons_cons, split, List.cons_append]

/-- What a shape does not see leaves the datum as it is. -/
theorem Varies.decode_eq {shape : Shape} (plain : shape.isPlain = true) {tree tree' : Tree}
    (varies : Varies shape tree tree') : shape.decode tree = shape.decode tree' := by
  induction varies with
  | refl => rfl
  | symm _ ih => exact (ih plain).symm
  | trans _ _ ih ih' => exact (ih plain).trans (ih' plain)
  | reorder perm =>
    rw [decode_record, decode_record]
    simp only [Json.Tree.members?, Option.bind_some]
    congr 1
    apply mapM_congr
    intro field _
    rw [Field.pick?, Field.pick?, Json.Tree.valueOf?_perm perm]
  | insert unknown =>
    rw [decode_record, decode_record]
    simp only [Json.Tree.members?, Option.bind_some]
    congr 1
    apply mapM_congr
    intro field mem
    rw [Field.pick?, Field.pick?, Json.Tree.valueOf?_cons_of_ne]
    rintro rfl
    exact unknown (List.mem_map_of_mem mem)
  | @member title fields field front back tree tree' mem _ ih =>
    obtain ⟨distinct, inner⟩ := isPlain_record.mp plain
    have same := ih (inner field mem).2
    rw [decode_record, decode_record]
    simp only [Json.Tree.members?, Option.bind_some]
    congr 1
    apply mapM_congr
    intro other mem'
    exact pick?_exchange distinct mem mem' same front back
  | @place title fields field front back tree tree' found _ ih =>
    obtain ⟨distinct, inner⟩ := isPlain_record.mp plain
    have mem := List.mem_of_getElem? found
    have same := ih (inner field mem).2
    have named : (fields.map Field.name)[front.length]? = some field.name := by
      rw [List.getElem?_map, found]
      rfl
    obtain ⟨before, behind, split⟩ := exists_zip_eq named back
    have length : (front ++ tree :: back).length = (front ++ tree' :: back).length := by
      simp only [List.length_append, List.length_cons]
    rw [decode_record, decode_record]
    simp only [Json.Tree.members?, length, split]
    split
    · simp only [Option.bind_some]
      congr 1
      apply mapM_congr
      intro other mem'
      exact pick?_exchange distinct mem mem' same before behind
    · rfl
  | item _ ih =>
    have same := ih plain
    rw [decode, list?]
    simp only [list?, List.mapM_append, List.mapM_cons, same]
  | @present inner tree tree' varies ih =>
    have same := ih plain
    rw [decode]
    by_cases null : tree = .null
    · rw [null, varies.eq_null_iff.mp null]
    · rw [optional?_of_ne null, optional?_of_ne (mt varies.eq_null_iff.mpr null), same]

end Shape

end BuildHook
