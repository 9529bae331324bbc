/-!
# The last member with a property

Where the members of a list are told apart by a property, the last one that has it is what a search
from the end finds.

## Main results

`getLast?_filter_eq_some_iff` says that the last member is found by keeping all that have the
property, and `getLast?_filter_map_eq_some_iff` that they may be changed before they are told apart.
-/

namespace BuildHook

variable {α β : Type}

/-- Whether a member of a list has a property that no later one has. -/
def IsLast (p : α → Prop) (x : α) (xs : List α) : Prop :=
  ∃ before after, xs = before ++ x :: after ∧ p x ∧ ∀ later ∈ after, ¬ p later

theorem IsLast.mem {p : α → Prop} {x : α} {xs : List α} (last : IsLast p x xs) : x ∈ xs := by
  obtain ⟨before, after, rfl, -, -⟩ := last
  exact List.mem_append_cons_self

theorem IsLast.holds {p : α → Prop} {x : α} {xs : List α} (last : IsLast p x xs) : p x := by
  obtain ⟨before, after, -, here, -⟩ := last
  exact here

theorem IsLast.congr {p q : α → Prop} (same : ∀ x, p x ↔ q x) {x : α} {xs : List α} :
    IsLast p x xs ↔ IsLast q x xs := by
  simp only [IsLast, same]

theorem getLast?_filter_eq_some_iff (p : α → Bool) (x : α) (xs : List α) :
    (xs.filter p).getLast? = some x ↔ IsLast (fun x => p x = true) x xs := by
  rw [List.getLast?_filter, List.find?_eq_some_iff_append]
  constructor
  · rintro ⟨here, after, before, reversed, others⟩
    refine ⟨before.reverse, after.reverse, ?_, here, ?_⟩
    · simpa using List.reverse_eq_append_iff.mp reversed
    · simpa using others
  · rintro ⟨before, after, rfl, here, others⟩
    refine ⟨here, after.reverse, before.reverse, by simp, ?_⟩
    simpa using others

theorem getLast?_filter_map_eq_some_iff (f : α → β) (p : β → Bool) (y : β) (xs : List α) :
    ((xs.map f).filter p).getLast? = some y
      ↔ ∃ x, IsLast (fun x => p (f x) = true) x xs ∧ f x = y := by
  rw [List.filter_map, List.getLast?_map, Option.map_eq_some_iff]
  simp only [getLast?_filter_eq_some_iff, Function.comp_apply]

end BuildHook
