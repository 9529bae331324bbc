import BuildHook.FileTree
import BuildHook.Proofs.Path.Join

/-!
# Steps of paths

What is left of a path when the pieces that lead nowhere are taken out: `..` and names. A straight
path leads up first and then down by names, and so do the paths above it that are made with it.

## Main results

`stepsOf_pieces` reads the steps off the components, and `denotes_ofComponents` says where the path
leads that components above a straight path name.
-/

namespace BuildHook.Path

/-- Whether a piece leads nowhere. -/
def isIdle (piece : List Char) : Bool := piece = [] || piece = ['.']

/-- The pieces of a path that lead somewhere. -/
def stepsOf (pieces : List (List Char)) : List (List Char) :=
  pieces.filter fun piece => !isIdle piece

/-- The piece that leads up. -/
def up : List Char := ['.', '.']

/-- Whether a piece is a name. -/
def IsOrdinary (piece : List Char) : Prop := innerComponent? piece = some (.normal piece)

/-- The step that a component stands for. -/
def Component.step? : Component → Option (List Char)
  | .root => none
  | .current => none
  | .parent => some up
  | .normal name => some name

/-- Whether a path leads up some levels from where it starts, and then down by names. -/
structure Denotes (path : String) (absolute : Bool) (levels : Nat) (names : List (List Char)) :
    Prop where
  absolute : isAbsolute path = absolute
  steps : stepsOf (pieces path.toList) = List.replicate levels up ++ names
  ordinary : ∀ name ∈ names, IsOrdinary name

theorem stepsOf_cons (piece : List Char) (rest : List (List Char)) :
    stepsOf (piece :: rest) = if isIdle piece then stepsOf rest else piece :: stepsOf rest := by
  cases hi : isIdle piece <;> simp [stepsOf, hi]

theorem stepsOf_append (first second : List (List Char)) :
    stepsOf (first ++ second) = stepsOf first ++ stepsOf second := List.filter_append ..

theorem innerComponent?_bind_step? (piece : List Char) :
    (innerComponent? piece).bind Component.step?
      = Option.guard (fun piece => !isIdle piece) piece := by
  unfold innerComponent? isIdle
  by_cases he : piece = []
  · simp [he, Option.guard]
  by_cases hc : piece = ['.']
  · simp [hc, Option.guard]
  by_cases hp : piece = ['.', '.']
  · simp [hp, Component.step?, up, Option.guard]
  · simp [he, hc, hp, Component.step?, Option.guard]

theorem firstComponent?_bind_step? (piece : List Char) :
    (firstComponent? piece).bind Component.step?
      = Option.guard (fun piece => !isIdle piece) piece := by
  unfold firstComponent?
  split
  · next hc => simp [hc, Component.step?, isIdle, Option.guard]
  · exact innerComponent?_bind_step? piece

theorem filterMap_innerComponent? (pieces : List (List Char)) :
    (pieces.filterMap innerComponent?).filterMap Component.step? = stepsOf pieces := by
  rw [List.filterMap_filterMap, funext innerComponent?_bind_step?]
  exact congrFun List.filterMap_eq_filter pieces

/-- The components of a path tell its steps. -/
theorem stepsOf_pieces (path : List Char) :
    stepsOf (pieces path) = (componentsOf path).filterMap Component.step? := by
  cases path with
  | nil => rfl
  | cons c rest =>
    by_cases hc : c = '/'
    · subst hc
      have pieces_eq : pieces ('/' :: rest) = [] :: pieces rest := by simp [pieces]
      simp only [pieces_eq, componentsOf, List.filterMap_cons, Component.step?,
        filterMap_innerComponent?]
      simp [stepsOf, isIdle]
    · obtain ⟨first, more, hp⟩ := List.exists_cons_of_ne_nil (pieces_ne_nil (c :: rest))
      rw [componentsOf_of_ne hc _ _ _ hp, hp, List.filterMap_append, filterMap_innerComponent?]
      have head : (firstComponent? first).toList.filterMap Component.step? = stepsOf [first] := by
        have bind := firstComponent?_bind_step? first
        cases hf : firstComponent? first <;> cases hi : isIdle first <;>
          simp_all [stepsOf, Option.guard]
      rw [head, ← List.singleton_append, stepsOf, stepsOf, stepsOf, List.filter_append]

theorem isAbsolute_eq (path : String) :
    isAbsolute path = ((components path).head? == some .root) := by
  unfold isAbsolute components
  cases hp : path.toList with
  | nil => rfl
  | cons c rest =>
    by_cases hc : c = '/'
    · subst hc
      simp [componentsOf]
    · obtain ⟨first, more, hs⟩ := List.exists_cons_of_ne_nil (pieces_ne_nil (c :: rest))
      rw [componentsOf_of_ne hc _ _ _ hs]
      have inner (piece : List Char) : innerComponent? piece ≠ some .root := by
        unfold innerComponent?
        split
        · simp
        · split
          · simp
          · split <;> simp
      have rooted : ∀ c ∈ (firstComponent? first).toList ++ more.filterMap innerComponent?,
          c ≠ .root := by
        rintro c member rfl
        rcases List.mem_append.mp member with head | tail
        · have found := Option.mem_toList.mp head
          unfold firstComponent? at found
          split at found
          · cases found
          · exact inner first found
        · obtain ⟨piece, -, found⟩ := List.mem_filterMap.mp tail
          exact inner piece found
      have relative : ['/'].isPrefixOf (c :: rest) = false := by
        simp [List.isPrefixOf, Ne.symm hc]
      rw [relative, eq_comm, beq_eq_false_iff_ne]
      exact fun head => rooted _ (List.mem_of_mem_head? head) rfl

/-- A piece holds no separator. -/
theorem not_mem_of_mem_pieces (path : List Char) : ∀ piece ∈ pieces path, '/' ∉ piece := by
  induction path with
  | nil => simp [pieces]
  | cons c rest ih =>
    unfold pieces
    split
    · simpa using ih
    · next hc =>
      cases hp : pieces rest with
      | nil => exact absurd hp (pieces_ne_nil rest)
      | cons first more =>
        rw [hp] at ih
        simpa [Ne.symm hc] using ih

/-- Taking the pieces is undone by putting separators between them. -/
theorem intercalate_pieces (path : List Char) : ['/'].intercalate (pieces path) = path := by
  induction path with
  | nil => rfl
  | cons c rest ih =>
    obtain ⟨first, more, hp⟩ := List.exists_cons_of_ne_nil (pieces_ne_nil rest)
    rw [hp] at ih
    unfold pieces
    split
    · next hc => rw [hp, List.intercalate_cons_cons, ih, hc]; rfl
    · rw [hp]
      cases more with
      | nil =>
        rw [List.intercalate_singleton] at ih ⊢
        rw [ih]
      | cons second more =>
        rw [List.intercalate_cons_cons] at ih ⊢
        rw [← ih]
        rfl

/-- Putting separators between pieces is undone by taking the pieces. -/
theorem pieces_intercalate {texts : List (List Char)} (some_text : texts ≠ [])
    (whole : ∀ text ∈ texts, '/' ∉ text) : pieces (['/'].intercalate texts) = texts := by
  induction texts with
  | nil => exact absurd rfl some_text
  | cons text rest ih =>
    have first := pieces_of_not_mem (whole text List.mem_cons_self)
    cases rest with
    | nil => rw [List.intercalate_singleton, first]
    | cons next rest =>
      rw [List.intercalate_cons_cons, List.append_assoc, List.singleton_append, pieces_append,
        first, ih (by simp) fun text member => whole text (List.mem_cons_of_mem _ member)]
      rfl

theorem text_of_innerComponent? {piece : List Char} {c : Component}
    (found : innerComponent? piece = some c) : c.text = piece := by
  unfold innerComponent? at found
  split at found
  · cases found
  · split at found
    · cases found
    · split at found
      · next hp =>
        cases found
        exact hp.symm
      · cases found
        rfl

theorem text_of_firstComponent? {piece : List Char} {c : Component}
    (found : firstComponent? piece = some c) : c.text = piece := by
  unfold firstComponent? at found
  split at found
  · next hc =>
    cases found
    exact hc.symm
  · exact text_of_innerComponent? found

theorem map_text_filterMap_sublist (f : List Char → Option Component)
    (same : ∀ piece c, f piece = some c → c.text = piece) (pieces : List (List Char)) :
    ((pieces.filterMap f).map Component.text).Sublist pieces := by
  induction pieces with
  | nil => exact .slnil
  | cons piece rest ih =>
    cases hf : f piece with
    | none =>
      rw [List.filterMap_cons_none hf]
      exact ih.cons _
    | some c =>
      rw [List.filterMap_cons_some hf, List.map_cons, same piece c hf]
      exact ih.cons_cons _

/-- The texts of the components are among the pieces, in this order. -/
theorem map_text_sublist (path : List Char) :
    ((componentsOf path).map Component.text).Sublist (pieces path) := by
  have inner := map_text_filterMap_sublist innerComponent? fun _ _ => text_of_innerComponent?
  cases path with
  | nil => simp [componentsOf, pieces, firstComponent?, innerComponent?]
  | cons c rest =>
    by_cases hc : c = '/'
    · subst hc
      have pieces_eq : pieces ('/' :: rest) = [] :: pieces rest := by simp [pieces]
      rw [pieces_eq]
      exact (inner (pieces rest)).cons_cons _
    · obtain ⟨first, more, hp⟩ := List.exists_cons_of_ne_nil (pieces_ne_nil (c :: rest))
      rw [componentsOf_of_ne hc _ _ _ hp, hp, List.map_append, ← List.singleton_append]
      apply List.Sublist.append
      · cases hf : firstComponent? first with
        | none => simp
        | some c => simp [text_of_firstComponent? hf]
      · exact inner more

theorem isOrdinary_of_mem {path name : List Char} (member : .normal name ∈ componentsOf path) :
    IsOrdinary name := by
  have inner {piece : List Char} (found : innerComponent? piece = some (.normal name)) :
      IsOrdinary name := by
    obtain rfl : name = piece := text_of_innerComponent? found
    exact found
  cases path with
  | nil => simp [componentsOf, pieces, firstComponent?, innerComponent?] at member
  | cons c rest =>
    by_cases hc : c = '/'
    · subst hc
      obtain ⟨piece, -, found⟩ : ∃ piece ∈ pieces rest, innerComponent? piece = _ := by
        simpa [componentsOf] using member
      exact inner found
    · obtain ⟨first, more, hp⟩ := List.exists_cons_of_ne_nil (pieces_ne_nil (c :: rest))
      rw [componentsOf_of_ne hc _ _ _ hp] at member
      rcases List.mem_append.mp member with head | tail
      · have found := Option.mem_toList.mp head
        unfold firstComponent? at found
        split at found
        · cases found
        · exact inner found
      · obtain ⟨piece, -, found⟩ := List.mem_filterMap.mp tail
        exact inner found

theorem IsOrdinary.ne_nil {name : List Char} (ordinary : IsOrdinary name) : name ≠ [] := by
  rintro rfl
  cases ordinary

theorem IsOrdinary.not_isIdle {name : List Char} (ordinary : IsOrdinary name) :
    isIdle name = false := by
  cases hi : isIdle name with
  | false => rfl
  | true =>
    have bind := innerComponent?_bind_step? name
    rw [ordinary] at bind
    simp [hi, Option.guard, Component.step?] at bind

theorem IsOrdinary.ne_up {name : List Char} (ordinary : IsOrdinary name) : name ≠ up := by
  rintro rfl
  cases ordinary

/-- The steps of components are their names and as many steps up as there are among them. -/
theorem filterMap_step? {lead : List Component} (rising : ∀ c ∈ lead, c.isNormal = false)
    (names : List (List Char)) :
    (lead ++ names.map Component.normal).filterMap Component.step?
      = List.replicate (lead.count .parent) up ++ names := by
  have down : (names.map Component.normal).filterMap Component.step? = names := by
    induction names with
    | nil => rfl
    | cons name names ih => simpa [Component.step?] using ih
  rw [List.filterMap_append, down]
  congr 1
  induction lead with
  | nil => rfl
  | cons c lead ih =>
    have tail := ih fun c member => rising c (List.mem_cons_of_mem _ member)
    have first := rising c List.mem_cons_self
    cases c with
    | root => simpa [List.filterMap_cons, Component.step?] using tail
    | current => simpa [List.filterMap_cons, Component.step?] using tail
    | parent => simp [Component.step?, tail, List.replicate_succ]
    | normal name => cases first

variable {path : String} {lead : List Component} {names : List (List Char)}

/-- Where the components of a straight path lead. -/
theorem denotes_of_components (whole : components path = lead ++ names.map Component.normal)
    (rising : ∀ c ∈ lead, c.isNormal = false) :
    Denotes path (isAbsolute path) (lead.count .parent) names where
  absolute := rfl
  steps := by
    rw [stepsOf_pieces, ← components, whole, filterMap_step? rising]
  ordinary name member := by
    have inside : Component.normal name ∈ components path := by
      rw [whole]
      exact List.mem_append_right _ (List.mem_map_of_mem member)
    exact isOrdinary_of_mem inside

/-- The steps of components are those of their texts. -/
theorem stepsOf_map_text {components : List Component}
    (ordinary : ∀ name, .normal name ∈ components → IsOrdinary name) :
    stepsOf (components.map Component.text) = components.filterMap Component.step? := by
  induction components with
  | nil => rfl
  | cons c components ih =>
    have tail := ih fun name member => ordinary name (List.mem_cons_of_mem _ member)
    rw [List.map_cons, stepsOf_cons, tail]
    cases c with
    | normal name => rw [Component.text, (ordinary name List.mem_cons_self).not_isIdle]; rfl
    | _ => rfl

/-- Texts with separators between them begin with one exactly if the first component is the root. -/
theorem isPrefixOf_intercalate {c : Component} {more : List Component}
    (not_alone : c = .root → more ≠ []) (named : c.text = [] → c = .root) (whole : '/' ∉ c.text) :
    ['/'].isPrefixOf (['/'].intercalate ((c :: more).map Component.text)) = (c == .root) := by
  cases ht : c.text with
  | nil =>
    obtain rfl := named ht
    obtain ⟨next, more, rfl⟩ := List.exists_cons_of_ne_nil (not_alone rfl)
    rw [List.map_cons, List.map_cons, List.intercalate_cons_cons]
    rfl
  | cons d rest =>
    have ordinary : d ≠ '/' := by
      rintro rfl
      exact whole (by simp [ht])
    have not_root : (c == .root) = false := by
      rw [beq_eq_false_iff_ne]
      rintro rfl
      cases ht
    cases more with
    | nil => simp [ht, List.isPrefixOf, ordinary.symm, not_root]
    | cons next more =>
      simp [ht, List.intercalate_cons_cons, List.isPrefixOf, ordinary.symm, not_root]

/-- The path of components that do not name the root alone. -/
theorem toList_ofComponents {components : List Component} (not_root : components ≠ [.root]) :
    (ofComponents components).toList = ['/'].intercalate (components.map Component.text) := by
  rw [ofComponents, if_neg not_root, String.toList_ofList]

section Above

variable {front : List Component} (above : front <+: components path)

include above

/-- The texts of components above a path are among its pieces. -/
theorem map_text_above_sublist : (front.map Component.text).Sublist (pieces path.toList) :=
  (above.sublist.map _).trans (map_text_sublist path.toList)

variable (some_component : front ≠ [])

include some_component

/-- The pieces of the path that components above a path name. -/
theorem pieces_ofComponents (not_root : front ≠ [.root]) :
    pieces (ofComponents front).toList = front.map Component.text := by
  rw [toList_ofComponents not_root, pieces_intercalate (by simpa using some_component)]
  intro piece member
  exact not_mem_of_mem_pieces _ _ ((map_text_above_sublist above).subset member)

theorem isAbsolute_ofComponents : isAbsolute (ofComponents front) = isAbsolute path := by
  obtain ⟨c, more, rfl⟩ := List.exists_cons_of_ne_nil some_component
  have inside := map_text_above_sublist above
  have same_head : (components path).head? = some c := by
    obtain ⟨back, whole⟩ := above
    rw [← whole]
    rfl
  have absolute : isAbsolute path = (c == .root) := by
    rw [isAbsolute_eq, same_head]
    rfl
  rw [absolute]
  by_cases not_root : c :: more = [.root]
  · rw [not_root]
    obtain rfl := (List.cons.inj not_root).1
    decide
  · rw [isAbsolute, toList_ofComponents not_root]
    refine isPrefixOf_intercalate ?_ ?_ ?_
    · rintro rfl rfl
      exact not_root rfl
    · intro empty
      cases c with
      | normal name =>
        exact absurd empty (isOrdinary_of_mem (above.subset List.mem_cons_self)).ne_nil
      | root => rfl
      | _ => cases empty
    · exact not_mem_of_mem_pieces _ _ (inside.subset (by simp))

/-- The steps of the path that components above a path name are theirs. -/
theorem stepsOf_ofComponents :
    stepsOf (pieces (ofComponents front).toList) = front.filterMap Component.step? := by
  by_cases not_root : front = [.root]
  · rw [not_root]
    decide
  · rw [pieces_ofComponents above some_component not_root]
    exact stepsOf_map_text fun name member => isOrdinary_of_mem (above.subset member)

end Above

/-- The components above a straight path name a path that leads up as far. -/
theorem denotes_ofComponents {front : List (List Char)}
    (above : lead ++ front.map Component.normal <+: components path)
    (some_component : lead ++ front.map Component.normal ≠ [])
    (rising : ∀ c ∈ lead, c.isNormal = false) :
    Denotes (ofComponents (lead ++ front.map Component.normal)) (isAbsolute path)
      (lead.count .parent) front where
  absolute := isAbsolute_ofComponents above some_component
  steps := by rw [stepsOf_ofComponents above some_component, filterMap_step? rising]
  ordinary name member := by
    have inside := above.subset (List.mem_append_right _ (List.mem_map_of_mem member))
    exact isOrdinary_of_mem inside

theorem intercalate_sublist {texts pieces : List (List Char)} (inside : texts.Sublist pieces) :
    (['/'].intercalate texts).Sublist (['/'].intercalate pieces) := by
  induction inside with
  | slnil => exact .slnil
  | @cons texts pieces piece inside ih =>
    cases pieces with
    | nil =>
      obtain rfl := List.sublist_nil.mp inside
      exact List.nil_sublist _
    | cons next pieces =>
      rw [List.intercalate_cons_cons, List.append_assoc]
      exact ih.trans ((List.sublist_append_right _ _).trans (List.sublist_append_right _ _))
  | @cons_cons texts pieces piece inside ih =>
    cases texts with
    | nil =>
      rw [List.intercalate_singleton]
      cases pieces with
      | nil => exact (List.intercalate_singleton).symm ▸ List.Sublist.refl _
      | cons next pieces =>
        rw [List.intercalate_cons_cons, List.append_assoc]
        exact List.sublist_append_left _ _
    | cons first texts =>
      cases pieces with
      | nil => cases inside
      | cons next pieces =>
        rw [List.intercalate_cons_cons, List.intercalate_cons_cons]
        exact ih.append_left _

theorem utf8ByteSize_ofList_mono {first second : List Char} (inside : first.Sublist second) :
    (String.ofList first).utf8ByteSize ≤ (String.ofList second).utf8ByteSize := by
  induction inside with
  | slnil => exact Nat.le_refl _
  | cons c inside ih =>
    rw [String.ofList_cons, String.utf8ByteSize_append]
    exact Nat.le_add_left_of_le ih
  | cons_cons c inside ih =>
    rw [String.ofList_cons, String.ofList_cons, String.utf8ByteSize_append,
      String.utf8ByteSize_append]
    exact Nat.add_le_add_left ih _

end BuildHook.Path

namespace BuildHook.FileTree

open BuildHook.Path

/-- A path that is not empty can be used if another can that has all its characters. -/
theorem checkPath_of_sublist {path other : String} (usable : checkPath path = .ok ())
    (inside : other.toList.Sublist path.toList) (some_char : other ≠ "") :
    checkPath other = .ok () := by
  have size : other.utf8ByteSize ≤ path.utf8ByteSize := by
    simpa using utf8ByteSize_ofList_mono inside
  unfold checkPath at usable ⊢
  split at usable
  · cases usable
  · next clean =>
    have clean' : hasNul other = false := by
      rw [Bool.not_eq_true, hasNul, List.any_eq_false] at clean
      rw [hasNul, List.any_eq_false]
      exact fun c member => clean c (inside.subset member)
    split at usable
    · cases usable
    · split at usable
      · cases usable
      · next short =>
        rw [clean', if_neg Bool.false_ne_true, if_neg some_char, if_neg (by omega)]

/-- The paths above a path that can be used can be used. -/
theorem checkPath_ofComponents {path : String} {front : List Component}
    (above : front <+: components path) (some_component : front ≠ [])
    (usable : checkPath path = .ok ()) : checkPath (ofComponents front) = .ok () := by
  by_cases not_root : front = [.root]
  · rw [not_root]
    rfl
  have text := toList_ofComponents not_root
  apply checkPath_of_sublist usable
  · rw [text, ← intercalate_pieces path.toList]
    exact intercalate_sublist (map_text_above_sublist above)
  · intro empty
    have pieces_eq := pieces_ofComponents above some_component not_root
    rw [empty] at pieces_eq
    -- a component without a text is the root
    cases front with
    | nil => exact some_component rfl
    | cons c more =>
      obtain ⟨no_text, no_more⟩ := List.cons.inj pieces_eq
      obtain rfl := List.map_eq_nil_iff.mp no_more.symm
      cases c with
      | normal name =>
        exact (isOrdinary_of_mem (above.subset List.mem_cons_self)).ne_nil no_text.symm
      | root => exact not_root rfl
      | _ => cases no_text

/-- Whether the last piece of a path, but for empty ones, is `.`. -/
def endsInDot (path : String) : Bool := (creationPieces path).getLast? == some ['.']

theorem stepsOf_creationPieces (path : String) :
    stepsOf (creationPieces path) = stepsOf (pieces path.toList) := by
  have split : creationPieces path ++ ((pieces path.toList).reverse.takeWhile List.isEmpty).reverse
      = pieces path.toList := by
    rw [creationPieces, ← List.reverse_append, List.takeWhile_append_dropWhile,
      List.reverse_reverse]
  have blank : stepsOf ((pieces path.toList).reverse.takeWhile List.isEmpty).reverse = [] := by
    apply List.filter_eq_nil_iff.mpr
    intro piece member
    have empty := List.all_eq_true.mp List.all_takeWhile piece (List.mem_reverse.mp member)
    simp [isIdle, List.isEmpty_iff.mp empty]
  rw [← split, stepsOf_append, blank, List.append_nil]

theorem getLast_creationPieces_ne_nil {path : String} {last : List Char}
    (found : (creationPieces path).getLast? = some last) : last ≠ [] := by
  rintro rfl
  rw [creationPieces, List.getLast?_reverse] at found
  have kept := List.head?_dropWhile_not List.isEmpty (pieces path.toList).reverse
  simp [found] at kept

/-- A directory is made by its name behind the path to the one above it, unless `.` stands behind
the name. -/
theorem creationPieces_cases {path : String} {absolute : Bool} {levels : Nat}
    {above : List (List Char)} {name : List Char}
    (denotes : Denotes path absolute levels (above ++ [name])) :
    (endsInDot path = false ∧ ∃ front, creationPieces path = front ++ [name]
      ∧ stepsOf front = List.replicate levels up ++ above)
    ∨ endsInDot path = true ∧ ∃ front, creationPieces path = front ++ [['.']]
      ∧ stepsOf front = List.replicate levels up ++ (above ++ [name]) := by
  have steps := (stepsOf_creationPieces path).trans denotes.steps
  rcases List.eq_nil_or_concat (creationPieces path) with empty | ⟨front, last, split⟩
  · rw [empty] at steps
    simp [stepsOf] at steps
  · rw [List.concat_eq_append] at split
    rw [split, stepsOf_append, stepsOf_cons] at steps
    have some_char : last ≠ [] := getLast_creationPieces_ne_nil (by rw [split]; simp)
    cases hi : isIdle last with
    | true =>
      have dot : last = ['.'] := by simpa [isIdle, some_char] using hi
      subst dot
      exact .inr ⟨by simp [endsInDot, split], front, split, by simpa [isIdle, stepsOf] using steps⟩
    | false =>
      rw [hi, ← List.append_assoc] at steps
      obtain ⟨same, last_eq⟩ := List.append_inj' steps rfl
      obtain rfl : last = name := by simpa [stepsOf] using last_eq
      have no_dot : last ≠ ['.'] := by
        rintro rfl
        simp [isIdle] at hi
      exact .inl ⟨by simp [endsInDot, split, no_dot], front, split, same⟩

end BuildHook.FileTree
