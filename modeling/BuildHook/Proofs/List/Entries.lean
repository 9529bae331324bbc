import Mathlib.Data.List.Forall2
import Mathlib.Data.List.Perm.Basic

/-!
# The entries of a list

How many entries have a property, what becomes of a list when one entry is changed, lists whose
entries are related place by place, and lists whose entries may have no image.
-/

namespace BuildHook

section Counting

variable {α : Type} {p : α → Bool} {l : List α}

/-- Changing one entry of a list changes a count by that entry alone. -/
theorem countP_modify (p : α → Bool) (f : α → α) {i : Nat} {a : α} (found : l[i]? = some a) :
    (l.modify i f).countP p + (if p a then 1 else 0) = l.countP p + (if p (f a) then 1 else 0) := by
  induction l generalizing i with
  | nil => simp at found
  | cons b rest ih =>
    cases i with
    | zero =>
      obtain rfl : b = a := by simpa using found
      simp only [List.modify_zero_cons, List.countP_cons]
      omega
    | succ i =>
      have tail := ih (i := i) (by simpa using found)
      simp only [List.modify_succ_cons, List.countP_cons]
      omega

/-- Counting the entries of a list by their places. -/
theorem countP_range (p : α → Bool) (l : List α) :
    (List.range l.length).countP (fun i => l[i]?.any p) = l.countP p := by
  induction l with
  | nil => rfl
  | cons a rest ih =>
    rw [List.length_cons, List.range_succ_eq_map, List.countP_cons, List.countP_map,
      List.countP_cons, ← ih]
    rfl

/-- A count is no more than two counts that together cover it. -/
theorem countP_le_add {q r : α → Bool}
    (covered : ∀ a ∈ l, p a = true → q a = true ∨ r a = true) :
    l.countP p ≤ l.countP q + l.countP r := by
  induction l with
  | nil => exact Nat.zero_le _
  | cons a rest ih =>
    have tail := ih fun b member => covered b (List.mem_cons_of_mem a member)
    have head := covered a List.mem_cons_self
    simp only [List.countP_cons]
    split <;> split <;> split <;> simp_all <;> omega

/-- A list whose first entries have a property counts at least these. -/
theorem le_countP {n : Nat} (first : ∀ i < n, l[i]?.any p = true) : n ≤ l.countP p := by
  induction l generalizing n with
  | nil =>
    cases n with
    | zero => exact Nat.zero_le _
    | succ n => cases first 0 (Nat.succ_pos n)
  | cons a rest ih =>
    cases n with
    | zero => exact Nat.zero_le _
    | succ n =>
      have here : p a = true := first 0 (Nat.succ_pos n)
      rw [List.countP_cons_of_pos here]
      exact Nat.succ_le_succ (ih fun i inside => first (i + 1) (Nat.succ_lt_succ inside))

end Counting

section Changing

variable {α : Type}

/-- Changing the entry behind the first ones. -/
theorem modify_append_length (f : α → α) (past later : List α) (a : α) :
    (past ++ a :: later).modify past.length f = past ++ f a :: later := by
  induction past with
  | nil => rfl
  | cons b past ih => rw [List.cons_append, List.length_cons, List.modify_succ_cons, ih]; rfl

/-- Changing one entry of a list exchanges it for another one. -/
theorem cons_set_perm {l : List α} {i : Nat} (inside : i < l.length) (b : α) :
    (l[i] :: l.set i b).Perm (b :: l) :=
  calc
    (l[i] :: l.set i b).Perm (l[i] :: b :: l.eraseIdx i) :=
      .cons _ (List.set_perm_cons_eraseIdx inside b)
    List.Perm _ (b :: l[i] :: l.eraseIdx i) := .swap ..
    List.Perm _ (b :: l) := .cons b (List.getElem_cons_eraseIdx_perm inside)

end Changing

section Relating

variable {α β : Type} {R : α → β → Prop} {l : List α} {l' : List β}

theorem rel_getElem? (same : List.Forall₂ R l l') (i : Nat) : Option.Rel R l[i]? l'[i]? := by
  induction same generalizing i with
  | nil => exact .none
  | cons first rest ih =>
    cases i with
    | zero => exact .some first
    | succ i => exact ih i

theorem forall₂_modify (same : List.Forall₂ R l l') {f : α → α} {g : β → β}
    (keeps : ∀ a b, R a b → R (f a) (g b)) (i : Nat) :
    List.Forall₂ R (l.modify i f) (l'.modify i g) := by
  induction same generalizing i with
  | nil => simp
  | cons first rest ih =>
    cases i with
    | zero => exact .cons (keeps _ _ first) rest
    | succ i => exact .cons first (ih i)

end Relating

section Mapping

variable {α β : Type} {f g : α → Option β} {l : List α}

theorem mapM_cons (f : α → Option β) (a : α) (l : List α) :
    (a :: l).mapM f = (f a).bind fun b => (l.mapM f).map (b :: ·) := by
  rw [List.mapM_cons]
  simp only [Option.map_eq_bind]
  rfl

theorem mapM_congr (same : ∀ a ∈ l, f a = g a) : l.mapM f = l.mapM g := by
  induction l with
  | nil => rfl
  | cons a l ih =>
    rw [mapM_cons, mapM_cons, same a List.mem_cons_self,
      ih fun b mem => same b (List.mem_cons_of_mem a mem)]

theorem mapM_eq_none {a : α} (mem : a ∈ l) (none : f a = none) : l.mapM f = .none := by
  induction l with
  | nil => cases mem
  | cons b l ih =>
    rw [mapM_cons]
    rcases List.mem_cons.mp mem with rfl | mem
    · rw [none, Option.bind_none]
    · rw [ih mem]
      cases f b <;> rfl

end Mapping

end BuildHook
