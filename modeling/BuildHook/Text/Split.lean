/-!
# Splitting
-/

namespace BuildHook.Text

/-- The pieces between the occurrences of a separator; a list without it is one piece. -/
def splitAll {α : Type} [BEq α] (separator : α) : List α → List (List α)
  | [] => [[]]
  | x :: rest =>
    if x == separator then [] :: splitAll separator rest
    else
      match splitAll separator rest with
      | [] => [[x]]
      | piece :: more => (x :: piece) :: more

end BuildHook.Text
