import BuildHook.Proofs.Json.Printing
import BuildHook.Proofs.Text.Encoding

/-!
# Values in canonical form

Where no object names a member twice, the canonical form has the same members, each in its canonical
form, in ascending order of their names.

## Main results

`canonicalMembers_perm` and `IsPlain.canonical` are about the members, `isAscending_canonical` is
about their order, and `IsAscending.canonical_eq` says that a value in this order is its own
canonical form.
-/

namespace BuildHook.Json

variable {name : String} {value : Json} {sorted members : List (String × Json)}

/-- A member of a new name is put among the others. -/
theorem insertMember_perm (fresh : name ∉ sorted.map Prod.fst) :
    (insertMember name value sorted).Perm ((name, value) :: sorted) := by
  induction sorted with
  | nil => exact .refl _
  | cons member sorted ih =>
    obtain ⟨other, old⟩ := member
    rw [List.map_cons, List.mem_cons, not_or] at fresh
    rw [insertMember, if_neg fresh.1]
    split
    · exact .refl _
    · exact ((ih fresh.2).cons _).trans (.swap _ _ _)

/-- Members of different names are kept, each in its canonical form. -/
theorem canonicalMembers_perm (distinct : (sorted ++ members).map Prod.fst |>.Nodup) :
    (canonicalMembers sorted members).Perm
      (sorted ++ members.map fun member => (member.1, member.2.canonical)) := by
  induction members generalizing sorted with
  | nil =>
    rw [canonicalMembers, List.map_nil, List.append_nil]
  | cons member members ih =>
    obtain ⟨name, value⟩ := member
    have inserted : (insertMember name value.canonical sorted).Perm
        ((name, value.canonical) :: sorted) := by
      apply insertMember_perm
      intro mem
      rw [List.map_append, List.map_cons] at distinct
      exact (List.nodup_append.mp distinct).2.2 name mem name List.mem_cons_self rfl
    have distinct' :
        ((insertMember name value.canonical sorted ++ members).map Prod.fst).Nodup := by
      have perm := ((inserted.append_right members).map Prod.fst).nodup_iff
      rw [perm]
      have middle : ((name, value) :: (sorted ++ members)).map Prod.fst |>.Nodup :=
        (List.perm_middle.map Prod.fst).nodup_iff.mp distinct
      exact middle
    rw [canonicalMembers, List.map_cons]
    exact (ih distinct').trans ((inserted.append_right _).trans List.perm_middle.symm)

theorem canonicalElements_eq (elements : List Json) :
    canonicalElements elements = elements.map canonical := by
  induction elements with
  | nil => rfl
  | cons value elements ih => rw [canonicalElements, ih, List.map_cons]

/-- The canonical form has no numbers and no name twice either. -/
theorem IsPlain.canonical {value : Json} (plain : value.IsPlain) : value.canonical.IsPlain := by
  induction plain with
  | null => exact .null
  | bool b => exact .bool b
  | string s => exact .string s
  | @array elements _ ih =>
    rw [Json.canonical, canonicalElements_eq]
    exact .array (List.forall_mem_map.mpr ih)
  | @object members distinct _ ih =>
    rw [Json.canonical]
    have perm : (canonicalMembers [] members).Perm
        (members.map fun member => (member.1, member.2.canonical)) := canonicalMembers_perm distinct
    refine .object ?_ ?_
    · rw [(perm.map Prod.fst).nodup_iff, List.map_map]
      exact distinct
    · intro member mem
      obtain ⟨old, mem', rfl⟩ := List.mem_map.mp (perm.mem_iff.mp mem)
      exact ih old mem'

/-! ## The order of names -/

/-- A value in which every object has its names in ascending order of their bytes. -/
inductive IsAscending : Json → Prop
  | null : IsAscending .null
  | bool (b : Bool) : IsAscending (.bool b)
  | int (n : Int) : IsAscending (.int n)
  | float (x : Float) : IsAscending (.float x)
  | string (s : String) : IsAscending (.string s)
  | array {elements : List Json} : (∀ value ∈ elements, IsAscending value) →
      IsAscending (.array elements)
  | object {members : List (String × Json)} :
      members.Pairwise (fun front back => Utf8.encode front.1 < Utf8.encode back.1) →
      (∀ member ∈ members, IsAscending member.2) → IsAscending (.object members)

theorem mem_insertMember {member : String × Json} (mem : member ∈ insertMember name value sorted) :
    member = (name, value) ∨ member ∈ sorted := by
  induction sorted with
  | nil => exact .inl (List.mem_singleton.mp mem)
  | cons front sorted ih =>
    obtain ⟨other, old⟩ := front
    unfold insertMember at mem
    split at mem
    · rcases List.mem_cons.mp mem with rfl | mem
      · exact .inl rfl
      · exact .inr (List.mem_cons_of_mem _ mem)
    split at mem
    · exact List.mem_cons.mp mem
    · rcases List.mem_cons.mp mem with rfl | mem
      · exact .inr List.mem_cons_self
      · exact (ih mem).imp_right (List.mem_cons_of_mem _)

theorem pairwise_insertMember (ascending : sorted.Pairwise fun front back => front.1 < back.1) :
    (insertMember name value sorted).Pairwise fun front back => front.1 < back.1 := by
  induction sorted with
  | nil => exact List.pairwise_singleton _ _
  | cons front sorted ih =>
    obtain ⟨other, old⟩ := front
    obtain ⟨below, behind⟩ := List.pairwise_cons.mp ascending
    unfold insertMember
    split
    · next same =>
      subst same
      exact List.pairwise_cons.mpr ⟨below, behind⟩
    split
    · next less =>
      refine List.pairwise_cons.mpr ⟨fun back mem => ?_, ascending⟩
      rcases List.mem_cons.mp mem with rfl | mem
      · exact less
      · exact String.lt_trans less (below back mem)
    · next ne not_less =>
      have less : other < name := by
        by_contra not_less'
        exact ne (String.le_antisymm (String.not_lt.mp not_less') (String.not_lt.mp not_less))
      refine List.pairwise_cons.mpr ⟨fun back mem => ?_, ih behind⟩
      rcases mem_insertMember mem with rfl | mem
      · exact less
      · exact below back mem

/-- What a sorted list of canonical values must be. -/
def AreAscending (members : List (String × Json)) : Prop :=
  members.Pairwise (fun front back => front.1 < back.1) ∧
    ∀ member ∈ members, member.2.IsAscending

mutual

/-- In the canonical form the names of every object ascend. -/
theorem isAscending_canonical (value : Json) : value.canonical.IsAscending := by
  cases value with
  | null => exact .null
  | bool b => exact .bool b
  | int n => exact .int n
  | float x => exact .float x
  | string s => exact .string s
  | array elements => exact .array (isAscending_canonicalElements elements)
  | object members =>
    obtain ⟨ascending, inner⟩ := areAscending_canonicalMembers members ⟨.nil, nofun⟩
    exact .object (ascending.imp Utf8.encode_lt) inner

theorem isAscending_canonicalElements (elements : List Json) :
    ∀ value ∈ canonicalElements elements, value.IsAscending := by
  cases elements with
  | nil => exact nofun
  | cons value elements =>
    rw [canonicalElements]
    exact List.forall_mem_cons.mpr
      ⟨isAscending_canonical value, isAscending_canonicalElements elements⟩

theorem areAscending_canonicalMembers (members : List (String × Json))
    {sorted : List (String × Json)} (ascending : AreAscending sorted) :
    AreAscending (canonicalMembers sorted members) := by
  cases members with
  | nil => exact ascending
  | cons member members =>
    obtain ⟨name, value⟩ := member
    rw [canonicalMembers]
    apply areAscending_canonicalMembers members
    refine ⟨pairwise_insertMember ascending.1, fun member mem => ?_⟩
    rcases mem_insertMember mem with rfl | mem
    · exact isAscending_canonical value
    · exact ascending.2 member mem

end

/-! ## Values in canonical form already -/

theorem lt_of_encode_lt {s t : String} (less : Utf8.encode s < Utf8.encode t) : s < t := by
  by_contra not_less
  rcases eq_or_ne t s with rfl | ne
  · exact List.lt_irrefl _ less
  · have greater : t < s := by
      by_contra not_greater
      exact ne (String.le_antisymm (String.not_lt.mp not_less) (String.not_lt.mp not_greater))
    exact List.lt_asymm less (Utf8.encode_lt greater)

/-- A member of a greater name is put behind the others. -/
theorem insertMember_of_lt (greater : ∀ member ∈ sorted, member.1 < name) :
    insertMember name value sorted = sorted ++ [(name, value)] := by
  induction sorted with
  | nil => rfl
  | cons front sorted ih =>
    obtain ⟨other, old⟩ := front
    obtain ⟨less, rest⟩ := List.forall_mem_cons.mp greater
    rw [insertMember, if_neg (String.ne_of_lt less).symm, if_neg (String.lt_asymm less), ih rest,
      List.cons_append]

theorem canonicalMembers_of_ascending
    (ascending : (sorted ++ members).Pairwise fun front back => front.1 < back.1)
    (same : ∀ member ∈ members, member.2.canonical = member.2) :
    canonicalMembers sorted members = sorted ++ members := by
  induction members generalizing sorted with
  | nil => rw [canonicalMembers, List.append_nil]
  | cons member members ih =>
    obtain ⟨name, value⟩ := member
    obtain ⟨here, later⟩ := List.forall_mem_cons.mp same
    have greater : ∀ front ∈ sorted, front.1 < name := fun front mem =>
      (List.pairwise_append.mp ascending).2.2 front mem (name, value) List.mem_cons_self
    rw [canonicalMembers, insertMember_of_lt greater, show value.canonical = value from here]
    rw [List.append_cons] at ascending
    rw [ih ascending later, List.append_assoc, List.singleton_append]

/-- A value whose names ascend is its own canonical form. -/
theorem IsAscending.canonical_eq {value : Json} (ascending : value.IsAscending) :
    value.canonical = value := by
  induction ascending with
  | @array elements _ ih =>
    rw [canonical, canonicalElements_eq, List.map_congr_left ih, List.map_id']
  | @object members ascending _ ih =>
    have inOrder : (([] : List (String × Json)) ++ members).Pairwise
        fun front back => front.1 < back.1 := ascending.imp lt_of_encode_lt
    rw [canonical, canonicalMembers_of_ascending inOrder ih, List.nil_append]
  | _ => rfl

end BuildHook.Json
