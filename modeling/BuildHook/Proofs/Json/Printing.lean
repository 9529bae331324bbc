import BuildHook.Json.Printer
import BuildHook.Proofs.Json.Grammar

/-!
# Printed values as texts of the grammar

The compact text of a value is a spelling of its tree. Numbers are left out: nothing is known of how
a floating-point number is shown.

## Main results

`IsPlain.spells_chars` is the theorem on values, `IsPlain.isText_render` that on whole texts.
-/

namespace BuildHook.Json

mutual

/-- The tree of a value. -/
def tree : Json → Tree
  | .null => .null
  | .bool b => .bool b
  | .int n => .number (integerText n)
  | .float x => .number (Decimal.compact.show x).toList
  | .string s => .string s
  | .array elements => .array (elementTrees elements)
  | .object members => .object (memberTrees members)

/-- `tree` for each element. -/
def elementTrees : List Json → List Tree
  | [] => []
  | value :: rest => value.tree :: elementTrees rest

/-- `tree` for each member. -/
def memberTrees : List (String × Json) → List (String × Tree)
  | [] => []
  | (name, value) :: rest => (name, value.tree) :: memberTrees rest

end

/-- A value without numbers, in which no object names a member twice. -/
inductive IsPlain : Json → Prop
  | null : IsPlain .null
  | bool (b : Bool) : IsPlain (.bool b)
  | string (s : String) : IsPlain (.string s)
  | array {elements : List Json} : (∀ value ∈ elements, IsPlain value) → IsPlain (.array elements)
  | object {members : List (String × Json)} : (members.map Prod.fst).Nodup →
      (∀ member ∈ members, IsPlain member.2) → IsPlain (.object members)

theorem elementTrees_eq (elements : List Json) : elementTrees elements = elements.map tree := by
  induction elements with
  | nil => rfl
  | cons value rest ih => rw [elementTrees, ih, List.map_cons]

theorem memberTrees_eq (members : List (String × Json)) :
    memberTrees members = members.map fun member => (member.1, member.2.tree) := by
  induction members with
  | nil => rfl
  | cons member rest ih => rw [memberTrees, ih, List.map_cons]

/-! ## String literals -/

theorem isHexDigit_hexDigit {n : Nat} (small : n < 16) : IsHexDigit n (hexDigit n) :=
  ⟨small, .inl rfl⟩

/-- A character is escaped in one of the ways to write it. -/
theorem spellsChar_escaped (c : Char) : SpellsChar c (escaped c) := by
  have known {n : Nat} (code : c.toNat = n) : c = Char.ofNat n := by rw [← code, Char.ofNat_toNat]
  unfold escaped
  split
  · next quote =>
    subst quote
    exact .short (by decide)
  split
  · next slash =>
    subst slash
    exact .short (by decide)
  split
  · next control =>
    split
    · next code => rw [known code]; exact .short (by decide)
    split
    · next code => rw [known code]; exact .short (by decide)
    split
    · next code => rw [known code]; exact .short (by decide)
    split
    · next code => rw [known code]; exact .short (by decide)
    split
    · next code => rw [known code]; exact .short (by decide)
    · apply SpellsChar.code
      refine ⟨[0, 0, c.toNat / 16, c.toNat % 16], rfl, ?_, ?_⟩
      · have zero : IsHexDigit 0 '0' := isHexDigit_hexDigit (by decide)
        exact .cons zero (.cons zero (.cons (isHexDigit_hexDigit (by omega))
          (.cons (isHexDigit_hexDigit (by omega)) .nil)))
      · simp only [List.foldl_cons, List.foldl_nil]
        omega
  · next quote slash control => exact .plain quote slash (Nat.le_of_not_lt control)

/-- A literal spells its characters. -/
theorem spellsBody_escaped (cs rest : List Char) :
    SpellsBody cs (cs.flatMap escaped ++ '"' :: rest) rest := by
  induction cs with
  | nil => exact .close
  | cons c cs ih =>
    rw [List.flatMap_cons, List.append_assoc]
    exact .char (spellsChar_escaped c) ih

theorem literal_append (cs rest : List Char) :
    literal cs ++ rest = '"' :: (cs.flatMap escaped ++ '"' :: rest) := by
  rw [literal, List.cons_append, List.append_assoc, List.singleton_append]

/-! ## Values -/

theorem spellsItems_elementChars {elements : List Json}
    (spells : ∀ value ∈ elements, ∀ rest, Spells value.tree (chars value ++ rest) rest)
    (rest : List Char) :
    SpellsItems false (elementTrees elements) (elementChars elements ++ rest) rest := by
  induction elements with
  | nil => exact .close .done
  | cons value elements ih =>
    rw [elementTrees, elementChars, List.cons_append, List.append_assoc]
    exact .item (.later .done .done) (spells value List.mem_cons_self _)
      (ih fun other mem => spells other (List.mem_cons_of_mem value mem))

theorem spellsMembers_memberChars {members : List (String × Json)}
    (spells : ∀ member ∈ members, ∀ rest, Spells member.2.tree (chars member.2 ++ rest) rest)
    (rest : List Char) :
    SpellsMembers false (memberTrees members) (memberChars members ++ rest) rest := by
  induction members with
  | nil => exact .close .done
  | cons member members ih =>
    rw [memberTrees, memberChars, List.cons_append, List.append_assoc, literal_append,
      List.cons_append, List.append_assoc]
    exact .member (.later .done .done) (spellsBody_escaped _ _) .done .done
      (spells member List.mem_cons_self _)
      (ih fun other mem => spells other (List.mem_cons_of_mem member mem))

/-- The text of a value is a spelling of its tree, whatever stands behind it. -/
theorem IsPlain.spells_chars {value : Json} (plain : value.IsPlain) (rest : List Char) :
    Spells value.tree (chars value ++ rest) rest := by
  induction plain generalizing rest with
  | null => exact .null
  | bool b =>
    cases b with
    | true => exact .yes
    | false => exact .no
  | string s =>
    rw [chars, literal_append]
    exact .string (spellsBody_escaped s.toList rest)
  | @array elements _ ih =>
    cases elements with
    | nil => exact .array (.close .done)
    | cons value elements =>
      have others := spellsItems_elementChars (fun other mem =>
        ih other (List.mem_cons_of_mem value mem)) rest
      rw [chars, List.cons_append, List.append_assoc]
      exact .array (.item (.first .done) (ih value List.mem_cons_self _) others)
  | @object members _ _ ih =>
    cases members with
    | nil => exact .object (.close .done)
    | cons member members =>
      have others := spellsMembers_memberChars (fun other mem =>
        ih other (List.mem_cons_of_mem member mem)) rest
      rw [chars, List.cons_append, List.append_assoc, literal_append, List.cons_append,
        List.append_assoc]
      exact .object (.member (.first .done) (spellsBody_escaped _ _) .done .done
        (ih member List.mem_cons_self _) others)

theorem IsPlain.isText_render {value : Json} (plain : value.IsPlain) :
    IsText value.tree value.render.toList := by
  rw [render, String.toList_ofList, ← List.append_nil (chars value)]
  exact ⟨_, [], .done, plain.spells_chars [], .done⟩

end BuildHook.Json
