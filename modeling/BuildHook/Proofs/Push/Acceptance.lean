import BuildHook.Proofs.Json.Printing
import BuildHook.Proofs.Shape.Readers
import BuildHook.Push.Basic

/-!
# Which bodies are pushes

The push that a tree stands for, told field by field, and the theorem that the body of a
notification is read as this push, however its tree is written down.

## Main results

`Push.ofTree?` is the reference. `Push.toOption_ofBytes` says that it is what is read, and
`Push.ofBytes_acceptance` adds what is of no account.
-/

namespace BuildHook

open Json (Tree IsText)
open Json.Tree (valueOf?)

variable {α : Type}

/-- The text of a string. -/
def Json.Tree.text? : Tree → Option String
  | .string s => some s
  | _ => none

/-- What must be given under a name. -/
def Json.Tree.required? (decode : Tree → Option α) (name : String)
    (members : List (String × Tree)) : Option α := do
  match ← valueOf? name members with
  | some tree => decode tree
  | none => none

/-- What may be left out or `null`. -/
def Json.Tree.optional? (decode : Tree → Option α) (name : String)
    (members : List (String × Tree)) : Option (Option α) := do
  match ← valueOf? name members with
  | none => some none
  | some .null => some none
  | some tree => (decode tree).map some

/-- An array of what is to be decoded, or nothing for an empty one. -/
def Json.Tree.listed? (decode : Tree → Option α) (name : String)
    (members : List (String × Tree)) : Option (List α) := do
  match ← valueOf? name members with
  | none => some []
  | some (.array items) => items.mapM decode
  | some _ => none

open Json.Tree (text? required? optional? listed?)

/-- The author that a tree stands for. -/
def CommitAuthor.ofTree? (tree : Tree) : Option CommitAuthor := do
  let members ← tree.members? ["name", "email", "username"]
  let name ← optional? text? "name" members
  let email ← optional? text? "email" members
  let username ← optional? text? "username" members
  return { name, email, username }

/-- The commit that a tree stands for. -/
def Commit.ofTree? (tree : Tree) : Option Commit := do
  let members ← tree.members? ["id", "message", "timestamp", "url", "author"]
  let id ← required? text? "id" members
  let message ← optional? text? "message" members
  let timestamp ← optional? text? "timestamp" members
  let url ← optional? text? "url" members
  let author ← optional? CommitAuthor.ofTree? "author" members
  return { id, message, timestamp, url, author }

/-- The repository that a tree stands for. -/
def Repository.ofTree? (tree : Tree) : Option Repository := do
  let members ← tree.members? ["full_name", "clone_url", "ssh_url", "name", "html_url"]
  let fullName ← required? text? "full_name" members
  let cloneUrl ← required? text? "clone_url" members
  let sshUrl ← optional? text? "ssh_url" members
  let name ← optional? text? "name" members
  let htmlUrl ← optional? text? "html_url" members
  return { fullName, cloneUrl, sshUrl, name, htmlUrl }

/-- The pusher that a tree stands for. -/
def Pusher.ofTree? (tree : Tree) : Option Pusher := do
  let members ← tree.members? ["name", "email"]
  let name ← optional? text? "name" members
  let email ← optional? text? "email" members
  return { name, email }

/-- The push that a tree stands for. -/
def Push.ofTree? (tree : Tree) : Option Push := do
  let members ← tree.members? ["ref", "before", "after", "compare", "repository", "head_commit",
    "commits", "pusher"]
  let gitRef ← optional? text? "ref" members
  let before ← optional? text? "before" members
  let after ← optional? text? "after" members
  let compare ← optional? text? "compare" members
  let repository ← required? Repository.ofTree? "repository" members
  let headCommit ← required? Commit.ofTree? "head_commit" members
  let commits ← listed? Commit.ofTree? "commits" members
  let pusher ← optional? Pusher.ofTree? "pusher" members
  return { gitRef, before, after, compare, repository, headCommit, commits, pusher }

section Fields

variable {content : Shape} {view : Datum → α} {decode : Tree → Option α}

/-- Whether a shape and a view of its data make up a decoder. -/
def Views (content : Shape) (view : Datum → α) (decode : Tree → Option α) : Prop :=
  ∀ tree, (content.decode tree).map view = decode tree

theorem Views.required (views : Views content view decode) (name : String)
    (members : List (String × Tree)) :
    ((Field.required name content).pick? members).map view = required? decode name members := by
  rw [Field.pick?, required?]
  show Option.map view ((valueOf? name members).bind _) = _
  rcases valueOf? name members with _ | _ | tree
  · rfl
  · rfl
  · exact views tree

theorem Views.maybe (views : Views content view decode)
    (present : ∀ tree, content.decode tree ≠ some .absent) (name : String)
    (members : List (String × Tree)) :
    ((Field.maybe name content).pick? members).map (Datum.asOption view)
      = optional? decode name members := by
  rw [Field.pick?, optional?]
  show Option.map _ ((valueOf? name members).bind _) = _
  rcases valueOf? name members with _ | _ | tree
  · rfl
  · rfl
  · have own : ((content.decode tree).map (Datum.asOption view)) = (decode tree).map some := by
      rw [← views tree, Option.map_map]
      cases held : content.decode tree with
      | none => rfl
      | some datum =>
        cases datum with
        | absent => exact absurd held (present tree)
        | _ => rfl
    cases tree with
    | null => rfl
    | _ => exact own

theorem Views.listed (views : Views content view decode) (name : String)
    (members : List (String × Tree)) :
    ((Field.defaulted name (.list []) (.list content)).pick? members).map
      (fun datum => datum.asList.map view) = listed? decode name members := by
  rw [Field.pick?, listed?]
  show Option.map _ ((valueOf? name members).bind _) = _
  rcases valueOf? name members with _ | _ | tree
  · rfl
  · rfl
  · cases tree with
    | array items =>
      show Option.map _ (Option.map Datum.list (items.mapM content.decode)) = items.mapM decode
      rw [Option.map_map]
      induction items with
      | nil => rfl
      | cons item items ih =>
        rw [mapM_cons, mapM_cons, ← ih, ← views item]
        cases content.decode item with
        | none => rfl
        | some datum => cases items.mapM content.decode <;> rfl
    | _ => rfl

end Fields

theorem views_text : Views .string Datum.asText text? := by
  intro tree
  cases tree <;> rfl

theorem decode_text_ne (tree : Tree) : Shape.string.decode tree ≠ some .absent := by
  cases tree <;> exact nofun

theorem decode_record_ne (title : String) (fields : List (Field Shape)) (tree : Tree) :
    (Shape.record title fields).decode tree ≠ some .absent := by
  rw [Shape.decode_record]
  cases tree.members? (fields.map Field.name) with
  | none => exact nofun
  | some members => cases h : fields.mapM (Field.pick? · members) <;> simp [h]

theorem CommitAuthor.views :
    Views CommitAuthor.shape CommitAuthor.ofDatum CommitAuthor.ofTree? := by
  intro tree
  rw [shape, Shape.decode_record, ofTree?]
  have text := views_text.maybe decode_text_ne
  simp only [← text, List.mapM_cons, List.mapM_nil, Option.pure_def, Option.bind_eq_bind,
    Option.bind_map, Option.map_bind, Option.bind_assoc, Option.bind_some, Option.map_some,
    Function.comp_def]
  rfl

theorem Commit.views : Views Commit.shape Commit.ofDatum Commit.ofTree? := by
  intro tree
  rw [shape, Shape.decode_record, ofTree?]
  have text := views_text.maybe decode_text_ne
  have author := CommitAuthor.views.maybe (decode_record_ne _ _)
  simp only [← text, ← views_text.required, ← author, List.mapM_cons, List.mapM_nil,
    Option.pure_def, Option.bind_eq_bind, Option.bind_map, Option.map_bind, Option.bind_assoc,
    Option.bind_some, Option.map_some, Function.comp_def]
  rfl

theorem Repository.views : Views Repository.shape Repository.ofDatum Repository.ofTree? := by
  intro tree
  rw [shape, Shape.decode_record, ofTree?]
  have text := views_text.maybe decode_text_ne
  simp only [← text, ← views_text.required, List.mapM_cons, List.mapM_nil,
    Option.pure_def, Option.bind_eq_bind, Option.bind_map, Option.map_bind, Option.bind_assoc,
    Option.bind_some, Option.map_some, Function.comp_def]
  rfl

theorem Pusher.views : Views Pusher.shape Pusher.ofDatum Pusher.ofTree? := by
  intro tree
  rw [shape, Shape.decode_record, ofTree?]
  have text := views_text.maybe decode_text_ne
  simp only [← text, List.mapM_cons, List.mapM_nil, Option.pure_def, Option.bind_eq_bind,
    Option.bind_map, Option.map_bind, Option.bind_assoc, Option.bind_some, Option.map_some,
    Function.comp_def]
  rfl

theorem Push.views : Views Push.shape Push.ofDatum Push.ofTree? := by
  intro tree
  rw [shape, Shape.decode_record, ofTree?]
  have text := views_text.maybe decode_text_ne
  have pusher := Pusher.views.maybe (decode_record_ne _ _)
  simp only [← text, ← Repository.views.required, ← Commit.views.required, ← Commit.views.listed,
    ← pusher, List.mapM_cons, List.mapM_nil,
    Option.pure_def, Option.bind_eq_bind, Option.bind_map, Option.map_bind, Option.bind_assoc,
    Option.bind_some, Option.map_some, Function.comp_def]
  rfl

namespace Push

theorem isPlain_shape : shape.isPlain = true := by
  decide

/-- A body is read as the push that its tree stands for. -/
theorem toOption_ofBytes {tree : Tree} {text : String} (spelled : IsText tree text.toList) :
    (ofBytes (Utf8.encode text)).toOption = ofTree? tree := by
  have read := Shape.toOption_ofJsonText isPlain_shape spelled
  rw [← views tree, ← read, ofBytes, Utf8.encode_eq]
  cases shape.ofJsonText (Utf8.encodeChars text.toList) <;> rfl

/-- A body is accepted exactly when its tree stands for a push, and is read as this push, however
the tree is written down: neither the order of members nor members of other names are of account. -/
theorem ofBytes_acceptance (tree : Tree) (text : String) (spelled : IsText tree text.toList) :
    (ofBytes (Utf8.encode text)).toOption = ofTree? tree ∧
      ∀ tree' text', shape.Varies tree tree' → IsText tree' text'.toList →
        (ofBytes (Utf8.encode text')).toOption = ofTree? tree := by
  refine ⟨toOption_ofBytes spelled, fun tree' text' varies spelled' => ?_⟩
  rw [toOption_ofBytes spelled', ← views tree, ← views tree', varies.decode_eq isPlain_shape]

/-- The members of a body that names its repository and its commit in order. -/
def sampleMembers : List (String × Json) :=
  [("head_commit", .array [.string "1f", .null]),
    ("repository", .object [("clone_url", .string "https://h/a"), ("full_name", .string "a/b")])]

/-- The push that this body stands for. -/
def samplePush : Push where
  gitRef := none
  before := none
  after := none
  compare := none
  repository := ⟨"a/b", "https://h/a", none, none, none⟩
  headCommit := ⟨"1f", none, none, none, none⟩
  commits := []
  pusher := none

theorem isPlain_sampleMembers : (Json.object sampleMembers).IsPlain := by
  refine .object (by decide) ?_
  simp only [sampleMembers, List.forall_mem_cons]
  refine ⟨.array ?_, .object (by decide) ?_, List.forall_mem_nil _⟩
  · simp only [List.forall_mem_cons]
    exact ⟨.string _, .null, List.forall_mem_nil _⟩
  · simp only [List.forall_mem_cons]
    exact ⟨.string _, .string _, List.forall_mem_nil _⟩

theorem ofBytes_acceptance_sample :
    (ofBytes (Utf8.encode (Json.object sampleMembers).render)).toOption = some samplePush ∧
      (ofBytes (Utf8.encode (Json.object (("zen", .null) :: sampleMembers)).render)).toOption
        = some samplePush := by
  have plain := isPlain_sampleMembers
  have plain' : (Json.object (("zen", .null) :: sampleMembers)).IsPlain := by
    cases plain with
    | object distinct inner =>
      exact .object (by decide) (List.forall_mem_cons.mpr ⟨.null, inner⟩)
  have accepted := ofBytes_acceptance _ _ plain.isText_render
  have held : ofTree? (Json.object sampleMembers).tree = some samplePush := by rfl
  have varies : shape.Varies (Json.object sampleMembers).tree
      (Json.object (("zen", .null) :: sampleMembers)).tree := .insert (by decide)
  exact ⟨accepted.1.trans held, (accepted.2 _ _ varies plain'.isText_render).trans held⟩

end Push

end BuildHook
