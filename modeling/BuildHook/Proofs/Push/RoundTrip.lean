import BuildHook.Proofs.Push.Acceptance
import BuildHook.Proofs.Shape.Canonical
import BuildHook.Script.Context
import BuildHook.Script.Sandbox

/-!
# Pushes that are written and read again

What is left out of a push when it is written is what its absence is read as, so the text of a push
is read as this push, whether its members stand in the order of the fields or sorted by name.

## Main results

`Encodes` says that a record is read from its own tree, and `Push.roundTrip` collects what follows
for the texts of a push.
-/

namespace BuildHook

open Json (Tree memberTrees IsPlain)
open Json.Tree (valueOf? text? required? optional? listed?)

/-- The members of an object, given as names with the values that are there. -/
def Json.present (entries : List (String × Option Json)) : List (String × Json) :=
  entries.flatMap fun entry => (entry.2.map fun value => (entry.1, value)).toList

section Entries

variable {entries : List (String × Option Json)} {name : String}

theorem present_cons (name : String) (value : Option Json) (entries : List (String × Option Json)) :
    Json.present ((name, value) :: entries)
      = (value.map fun value => (name, value)).toList ++ Json.present entries :=
  rfl

theorem present_nil : Json.present [] = [] := rfl

theorem name_mem_of_present (mem : name ∈ (Json.present entries).map Prod.fst) :
    name ∈ entries.map Prod.fst := by
  obtain ⟨member, found, rfl⟩ := List.mem_map.mp mem
  obtain ⟨⟨name, value⟩, entry, there⟩ := List.mem_flatMap.mp found
  cases value with
  | none => cases there
  | some value =>
    rw [List.mem_singleton.mp there]
    exact List.mem_map_of_mem entry

/-- Each entry is the value of its name. -/
theorem valueOf?_present (distinct : (entries.map Prod.fst).Nodup) {value : Option Json}
    (mem : (name, value) ∈ entries) :
    valueOf? name (memberTrees (Json.present entries)) = some (value.map Json.tree) := by
  induction entries with
  | nil => cases mem
  | cons entry entries ih =>
    obtain ⟨other, old⟩ := entry
    obtain ⟨fresh, later⟩ := List.nodup_cons.mp distinct
    rw [present_cons]
    rcases List.mem_cons.mp mem with same | behind
    · cases same
      have absent : name ∉ (memberTrees (Json.present entries)).map Prod.fst := by
        rw [Json.memberTrees_eq, List.map_map]
        exact fun found => fresh (name_mem_of_present found)
      have none := Json.Tree.valueOf?_of_not_mem absent
      cases value with
      | none => exact none
      | some value =>
        show valueOf? name ((name, value.tree) :: memberTrees (Json.present entries)) = _
        rw [Json.Tree.valueOf?_cons_self, none]
        rfl
    · have ne : other ≠ name := by
        rintro rfl
        exact fresh (List.mem_map.mpr ⟨_, behind, rfl⟩)
      cases old with
      | none => exact ih later behind
      | some old =>
        show valueOf? name ((other, old.tree) :: memberTrees (Json.present entries)) = _
        rw [Json.Tree.valueOf?_cons_of_ne ne]
        exact ih later behind

theorem isPlain_present (distinct : (entries.map Prod.fst).Nodup)
    (plain : ∀ entry ∈ entries, ∀ value ∈ entry.2, value.IsPlain) :
    (Json.object (Json.present entries)).IsPlain := by
  induction entries with
  | nil => exact .object .nil (List.forall_mem_nil _)
  | cons entry entries ih =>
    obtain ⟨name, value⟩ := entry
    obtain ⟨fresh, distinct⟩ := List.nodup_cons.mp distinct
    obtain ⟨own, others⟩ := List.forall_mem_cons.mp plain
    have inner := ih distinct others
    cases value with
    | none => exact inner
    | some value =>
      cases inner with
      | object distinct' inner =>
        have fresh' : name ∉ (Json.present entries).map Prod.fst := mt name_mem_of_present fresh
        refine .object (List.nodup_cons.mpr ⟨fresh', distinct'⟩) ?_
        exact List.forall_mem_cons.mpr ⟨own value rfl, inner⟩

end Entries

/-- What is written by `encode` is read by `decode`. -/
structure Encodes {α : Type} (encode : α → Json) (decode : Tree → Option α) : Prop where
  plain : ∀ a, (encode a).IsPlain
  ne_null : ∀ a, (encode a).tree ≠ .null
  decode_tree : ∀ a, decode (encode a).tree = some a

namespace Encodes

variable {α : Type} {encode : α → Json} {decode : Tree → Option α}
variable {entries : List (String × Option Json)} {name : String}

theorem plain_map (encodes : Encodes encode decode) (a : Option α) :
    ∀ value ∈ a.map encode, value.IsPlain := by
  intro value mem
  obtain ⟨a, -, rfl⟩ := Option.map_eq_some_iff.mp mem
  exact encodes.plain a

theorem required (encodes : Encodes encode decode) (distinct : (entries.map Prod.fst).Nodup)
    (name : String) (a : α) (mem : (name, some (encode a)) ∈ entries) :
    required? decode name (memberTrees (Json.present entries)) = some a := by
  rw [required?, valueOf?_present distinct mem]
  exact encodes.decode_tree a

theorem optional (encodes : Encodes encode decode) (distinct : (entries.map Prod.fst).Nodup)
    (name : String) (a : Option α) (mem : (name, a.map encode) ∈ entries) :
    optional? decode name (memberTrees (Json.present entries)) = some a := by
  rw [optional?, valueOf?_present distinct mem]
  cases a with
  | none => rfl
  | some a =>
    have ne := encodes.ne_null a
    have inverts := encodes.decode_tree a
    show Option.bind (some (some (encode a).tree)) _ = _
    generalize (encode a).tree = tree at ne inverts
    cases tree with
    | null => exact absurd rfl ne
    | _ => exact congrArg (Option.map some) inverts

theorem listed (encodes : Encodes encode decode) (distinct : (entries.map Prod.fst).Nodup)
    (name : String) (as : List α)
    (mem : (name, if as.isEmpty then none else some (.array (as.map encode))) ∈ entries) :
    listed? decode name (memberTrees (Json.present entries)) = some as := by
  rw [listed?, valueOf?_present distinct mem]
  cases as with
  | nil => rfl
  | cons a as =>
    show (Json.elementTrees ((a :: as).map encode)).mapM decode = _
    rw [Json.elementTrees_eq]
    generalize a :: as = as
    induction as with
    | nil => rfl
    | cons a as ih => rw [List.map_cons, List.map_cons, mapM_cons, ih, encodes.decode_tree a]; rfl

/-- A record is written as the entries of its fields. -/
theorem of_entries {entries : α → List (String × Option Json)}
    (written : ∀ a, encode a = .object (Json.present (entries a)))
    (distinct : ∀ a, ((entries a).map Prod.fst).Nodup)
    (plain : ∀ a, ∀ entry ∈ entries a, ∀ value ∈ entry.2, value.IsPlain)
    (read : ∀ a, decode (.object (memberTrees (Json.present (entries a)))) = some a) :
    Encodes encode decode where
  plain a := written a ▸ isPlain_present (distinct a) (plain a)
  ne_null a := by
    rw [written]
    exact nofun
  decode_tree a := by
    rw [written]
    exact read a

end Encodes

theorem encodes_text : Encodes Json.string text? where
  plain := .string
  ne_null := nofun
  decode_tree _ := rfl

theorem optionalMember_eq (name : String) (s : Option String) :
    optionalMember name s = ((s.map Json.string).map fun value => (name, value)).toList := by
  cases s <;> rfl

namespace CommitAuthor

/-- What is written of an author. -/
def entries (author : CommitAuthor) : List (String × Option Json) :=
  [("name", author.name.map .string), ("email", author.email.map .string),
    ("username", author.username.map .string)]

theorem toJson_eq (author : CommitAuthor) :
    author.toJson = .object (Json.present author.entries) := by
  simp only [toJson, entries, optionalMember_eq, present_cons, present_nil, List.append_assoc,
    List.append_nil]

theorem distinct_entries (author : CommitAuthor) : (author.entries.map Prod.fst).Nodup := by
  show ["name", "email", "username"].Nodup
  decide

theorem ofTree?_entries (author : CommitAuthor) :
    ofTree? (.object (memberTrees (Json.present author.entries))) = some author := by
  have text := encodes_text.optional author.distinct_entries
  simp only [ofTree?, Json.Tree.members?, Option.bind_eq_bind, Option.bind_some]
  rw [text "name" author.name (by simp [entries]), text "email" author.email (by simp [entries]),
    text "username" author.username (by simp [entries])]
  rfl

theorem encodes : Encodes toJson ofTree? := by
  apply Encodes.of_entries toJson_eq distinct_entries _ ofTree?_entries
  intro author
  simp only [entries, List.forall_mem_cons]
  exact ⟨encodes_text.plain_map _, encodes_text.plain_map _, encodes_text.plain_map _,
    List.forall_mem_nil _⟩

end CommitAuthor

namespace Commit

/-- What is written of a commit. -/
def entries (commit : Commit) : List (String × Option Json) :=
  [("id", some (.string commit.id)), ("message", commit.message.map .string),
    ("timestamp", commit.timestamp.map .string), ("url", commit.url.map .string),
    ("author", commit.author.map CommitAuthor.toJson)]

theorem toJson_eq (commit : Commit) : commit.toJson = .object (Json.present commit.entries) := by
  simp only [toJson, entries, optionalMember_eq, present_cons, present_nil, List.append_assoc,
    List.append_nil, Option.map_map, Option.map_some, Option.toList_some, List.singleton_append,
    Function.comp_def]

theorem distinct_entries (commit : Commit) : (commit.entries.map Prod.fst).Nodup := by
  show ["id", "message", "timestamp", "url", "author"].Nodup
  decide

theorem ofTree?_entries (commit : Commit) :
    ofTree? (.object (memberTrees (Json.present commit.entries))) = some commit := by
  have must := encodes_text.required commit.distinct_entries
  have text := encodes_text.optional commit.distinct_entries
  have author := CommitAuthor.encodes.optional commit.distinct_entries
  simp only [ofTree?, Json.Tree.members?, Option.bind_eq_bind, Option.bind_some]
  rw [must "id" commit.id (by simp [entries]), text "message" commit.message (by simp [entries]),
    text "timestamp" commit.timestamp (by simp [entries]),
    text "url" commit.url (by simp [entries]), author "author" commit.author (by simp [entries])]
  rfl

theorem encodes : Encodes toJson ofTree? := by
  apply Encodes.of_entries toJson_eq distinct_entries _ ofTree?_entries
  intro commit
  simp only [entries, List.forall_mem_cons]
  exact ⟨encodes_text.plain_map (some commit.id), encodes_text.plain_map _,
    encodes_text.plain_map _, encodes_text.plain_map _, CommitAuthor.encodes.plain_map _,
    List.forall_mem_nil _⟩

end Commit

namespace Repository

/-- What is written of a repository. -/
def entries (repository : Repository) : List (String × Option Json) :=
  [("full_name", some (.string repository.fullName)),
    ("clone_url", some (.string repository.cloneUrl)), ("ssh_url", repository.sshUrl.map .string),
    ("name", repository.name.map .string), ("html_url", repository.htmlUrl.map .string)]

theorem toJson_eq (repository : Repository) :
    repository.toJson = .object (Json.present repository.entries) := by
  simp only [toJson, entries, optionalMember_eq, present_cons, present_nil, List.append_assoc,
    List.append_nil, Option.map_some, Option.toList_some, List.singleton_append]

theorem distinct_entries (repository : Repository) :
    (repository.entries.map Prod.fst).Nodup := by
  show ["full_name", "clone_url", "ssh_url", "name", "html_url"].Nodup
  decide

theorem ofTree?_entries (repository : Repository) :
    ofTree? (.object (memberTrees (Json.present repository.entries))) = some repository := by
  have must := encodes_text.required repository.distinct_entries
  have text := encodes_text.optional repository.distinct_entries
  simp only [ofTree?, Json.Tree.members?, Option.bind_eq_bind, Option.bind_some]
  rw [must "full_name" repository.fullName (by simp [entries]),
    must "clone_url" repository.cloneUrl (by simp [entries]),
    text "ssh_url" repository.sshUrl (by simp [entries]),
    text "name" repository.name (by simp [entries]),
    text "html_url" repository.htmlUrl (by simp [entries])]
  rfl

theorem encodes : Encodes toJson ofTree? := by
  apply Encodes.of_entries toJson_eq distinct_entries _ ofTree?_entries
  intro repository
  simp only [entries, List.forall_mem_cons]
  exact ⟨encodes_text.plain_map (some repository.fullName),
    encodes_text.plain_map (some repository.cloneUrl), encodes_text.plain_map _,
    encodes_text.plain_map _, encodes_text.plain_map _, List.forall_mem_nil _⟩

end Repository

namespace Pusher

/-- What is written of a pusher. -/
def entries (pusher : Pusher) : List (String × Option Json) :=
  [("name", pusher.name.map .string), ("email", pusher.email.map .string)]

theorem toJson_eq (pusher : Pusher) : pusher.toJson = .object (Json.present pusher.entries) := by
  simp only [toJson, entries, optionalMember_eq, present_cons, present_nil, List.append_nil]

theorem distinct_entries (pusher : Pusher) : (pusher.entries.map Prod.fst).Nodup := by
  show ["name", "email"].Nodup
  decide

theorem ofTree?_entries (pusher : Pusher) :
    ofTree? (.object (memberTrees (Json.present pusher.entries))) = some pusher := by
  have text := encodes_text.optional pusher.distinct_entries
  simp only [ofTree?, Json.Tree.members?, Option.bind_eq_bind, Option.bind_some]
  rw [text "name" pusher.name (by simp [entries]), text "email" pusher.email (by simp [entries])]
  rfl

theorem encodes : Encodes toJson ofTree? := by
  apply Encodes.of_entries toJson_eq distinct_entries _ ofTree?_entries
  intro pusher
  simp only [entries, List.forall_mem_cons]
  exact ⟨encodes_text.plain_map _, encodes_text.plain_map _, List.forall_mem_nil _⟩

end Pusher

namespace Push

/-- What is written of a push. -/
def entries (push : Push) : List (String × Option Json) :=
  [("ref", push.gitRef.map .string), ("before", push.before.map .string),
    ("after", push.after.map .string), ("compare", push.compare.map .string),
    ("repository", some push.repository.toJson), ("head_commit", some push.headCommit.toJson),
    ("commits",
      if push.commits.isEmpty then none else some (.array (push.commits.map Commit.toJson))),
    ("pusher", push.pusher.map Pusher.toJson)]

theorem toJson_eq (push : Push) : push.toJson = .object (Json.present push.entries) := by
  have commits : (if push.commits.isEmpty then []
      else [("commits", Json.array (push.commits.map Commit.toJson))])
      = ((if push.commits.isEmpty then none else some (.array (push.commits.map Commit.toJson))).map
        fun value => ("commits", value)).toList := by
    split <;> rfl
  simp only [toJson, entries, optionalMember_eq, present_cons, present_nil, commits,
    List.append_assoc, List.append_nil, Option.map_map, Option.map_some, Option.toList_some,
    List.singleton_append, Function.comp_def]

theorem distinct_entries (push : Push) : (push.entries.map Prod.fst).Nodup := by
  show ["ref", "before", "after", "compare", "repository", "head_commit", "commits", "pusher"].Nodup
  decide

theorem ofTree?_entries (push : Push) :
    ofTree? (.object (memberTrees (Json.present push.entries))) = some push := by
  have text := encodes_text.optional push.distinct_entries
  have repository := Repository.encodes.required push.distinct_entries
  have commit := Commit.encodes.required push.distinct_entries
  have commits := Commit.encodes.listed push.distinct_entries
  have pusher := Pusher.encodes.optional push.distinct_entries
  simp only [ofTree?, Json.Tree.members?, Option.bind_eq_bind, Option.bind_some]
  rw [text "ref" push.gitRef (by simp [entries]), text "before" push.before (by simp [entries]),
    text "after" push.after (by simp [entries]), text "compare" push.compare (by simp [entries]),
    repository "repository" push.repository (by simp [entries]),
    commit "head_commit" push.headCommit (by simp [entries]),
    commits "commits" push.commits (by simp [entries]),
    pusher "pusher" push.pusher (by simp [entries])]
  rfl

theorem plain_commits (push : Push) : ∀ value ∈ (if push.commits.isEmpty then none
    else some (Json.array (push.commits.map Commit.toJson))), value.IsPlain := by
  intro value mem
  split at mem
  · cases mem
  · cases mem
    exact .array (List.forall_mem_map.mpr fun commit _ => Commit.encodes.plain commit)

theorem encodes : Encodes toJson ofTree? := by
  apply Encodes.of_entries toJson_eq distinct_entries _ ofTree?_entries
  intro push
  simp only [entries, List.forall_mem_cons]
  exact ⟨encodes_text.plain_map _, encodes_text.plain_map _, encodes_text.plain_map _,
    encodes_text.plain_map _, Repository.encodes.plain_map (some push.repository),
    Commit.encodes.plain_map (some push.headCommit), push.plain_commits,
    Pusher.encodes.plain_map _, List.forall_mem_nil _⟩

/-- A text of a value that holds what the push holds is read as the push. -/
theorem ofBytes_render {record : Json} {push : Push} (plain : record.IsPlain)
    (same : Shape.Alike record.tree push.toJson.tree) :
    ofBytes (Utf8.encode record.render) = .ok push := by
  have read := toOption_ofBytes plain.isText_render
  rw [← views, same shape isPlain_shape, views, encodes.decode_tree] at read
  cases result : ofBytes (Utf8.encode record.render) with
  | error e => rw [result] at read; cases read
  | ok push' => rw [result] at read; cases read; rfl

/-- What a script is given as its push record. -/
def record (push : Push) : Json := push.toJson.canonical.canonical

theorem ofBytes_toJson (push : Push) : ofBytes (Utf8.encode push.toJson.render) = .ok push :=
  ofBytes_render (encodes.plain push) fun _ _ => rfl

theorem ofBytes_record (push : Push) : ofBytes (Utf8.encode push.record.render) = .ok push := by
  have plain := (encodes.plain push).canonical
  apply ofBytes_render plain.canonical
  exact (Shape.alike_canonical plain).trans (Shape.alike_canonical (encodes.plain push))

theorem bind_record (push : Push) (key : Option String) (sandbox : Sandbox) :
    sandbox.bind "pushRecord" (ScriptContext.ofPush push key).pushRecord
      = (.ok (), sandbox.extend ("var pushRecord = " ++ push.record.render ++ ";\n")) := by
  rfl

/-- A push is read from its text as it was written, in the order of its fields and as a script is
given it, with the names in ascending order. So nothing changes when what was read is written and
read again, and different pushes have different records. -/
theorem roundTrip :
    (∀ push : Push, ofBytes (Utf8.encode push.toJson.render) = .ok push) ∧
      (∀ (push : Push) (key : Option String) (sandbox : Sandbox),
        sandbox.bind "pushRecord" (ScriptContext.ofPush push key).pushRecord
          = (.ok (), sandbox.extend ("var pushRecord = " ++ push.record.render ++ ";\n"))) ∧
      (∀ push : Push, push.record.IsAscending ∧
        ofBytes (Utf8.encode push.record.render) = .ok push) ∧
      (∀ body, (ofBytes body >>= fun read => ofBytes (Utf8.encode read.toJson.render))
        = ofBytes body) ∧
      Function.Injective fun push : Push => push.record.render := by
  refine ⟨ofBytes_toJson, bind_record, fun push => ⟨?_, ofBytes_record push⟩, fun body => ?_, ?_⟩
  · exact Json.isAscending_canonical push.toJson.canonical
  · cases ofBytes body with
    | error e => rfl
    | ok push =>
      dsimp only [bind, Except.bind]
      rw [ofBytes_toJson]
  · intro push push' same
    have texts : push.record.render = push'.record.render := same
    have read := ofBytes_record push
    rw [texts, ofBytes_record push'] at read
    exact (Except.ok.inj read).symm

end Push

end BuildHook
