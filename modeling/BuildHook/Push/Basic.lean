import BuildHook.Json.Value
import BuildHook.Shape.FromJsonText
import BuildHook.Shape.View

/-!
# Pushes

What a push notification says: where the repository is, which commit became its head, and optional
details that are handed on to the pipeline script. Only the repository's name and clone address and
the head commit's identifier must be given.
-/

namespace BuildHook

/-- Who made a commit. -/
structure CommitAuthor where
  name : Option String
  email : Option String
  username : Option String
  deriving DecidableEq

/-- A commit. -/
structure Commit where
  id : String
  message : Option String
  timestamp : Option String
  url : Option String
  author : Option CommitAuthor
  deriving DecidableEq

/-- A repository and the addresses it can be cloned from. -/
structure Repository where
  fullName : String
  cloneUrl : String
  sshUrl : Option String
  name : Option String
  htmlUrl : Option String
  deriving DecidableEq

/-- Who pushed. -/
structure Pusher where
  name : Option String
  email : Option String
  deriving DecidableEq

/-- A push notification. -/
structure Push where
  gitRef : Option String
  before : Option String
  after : Option String
  compare : Option String
  repository : Repository
  headCommit : Commit
  commits : List Commit
  pusher : Option Pusher
  deriving DecidableEq

/-- A member of an object that is left out when absent. -/
def optionalMember (name : String) (s : Option String) : List (String × Json) :=
  match s with
  | some s => [(name, .string s)]
  | none => []

namespace CommitAuthor

/-- The form in which notifications give an author. -/
def shape : Shape :=
  .record "struct CommitAuthor"
    [.maybe "name" .string, .maybe "email" .string, .maybe "username" .string]

/-- The author that a datum of this shape holds. -/
def ofDatum (d : Datum) : CommitAuthor := ⟨d.maybeText 0, d.maybeText 1, d.maybeText 2⟩

/-- The author as a JSON object. -/
def toJson (author : CommitAuthor) : Json :=
  .object (optionalMember "name" author.name ++ optionalMember "email" author.email
    ++ optionalMember "username" author.username)

end CommitAuthor

namespace Commit

/-- The form in which notifications give a commit. -/
def shape : Shape :=
  .record "struct Commit"
    [.required "id" .string, .maybe "message" .string, .maybe "timestamp" .string,
      .maybe "url" .string, .maybe "author" CommitAuthor.shape]

/-- The commit that a datum of this shape holds. -/
def ofDatum (d : Datum) : Commit :=
  ⟨d.textField 0, d.maybeText 1, d.maybeText 2, d.maybeText 3,
    (d.field 4).asOption CommitAuthor.ofDatum⟩

/-- The commit as a JSON object. -/
def toJson (commit : Commit) : Json :=
  .object (("id", .string commit.id) :: (optionalMember "message" commit.message
    ++ optionalMember "timestamp" commit.timestamp ++ optionalMember "url" commit.url
    ++ (commit.author.map fun author => ("author", author.toJson)).toList))

end Commit

namespace Repository

/-- The form in which notifications give a repository. -/
def shape : Shape :=
  .record "struct Repository"
    [.required "full_name" .string, .required "clone_url" .string, .maybe "ssh_url" .string,
      .maybe "name" .string, .maybe "html_url" .string]

/-- The repository that a datum of this shape holds. -/
def ofDatum (d : Datum) : Repository :=
  ⟨d.textField 0, d.textField 1, d.maybeText 2, d.maybeText 3, d.maybeText 4⟩

/-- The repository as a JSON object. -/
def toJson (repository : Repository) : Json :=
  .object (("full_name", .string repository.fullName)
    :: ("clone_url", .string repository.cloneUrl)
    :: (optionalMember "ssh_url" repository.sshUrl ++ optionalMember "name" repository.name
      ++ optionalMember "html_url" repository.htmlUrl))

end Repository

namespace Pusher

/-- The form in which notifications give a pusher. -/
def shape : Shape :=
  .record "struct Pusher" [.maybe "name" .string, .maybe "email" .string]

/-- The pusher that a datum of this shape holds. -/
def ofDatum (d : Datum) : Pusher := ⟨d.maybeText 0, d.maybeText 1⟩

/-- The pusher as a JSON object. -/
def toJson (pusher : Pusher) : Json :=
  .object (optionalMember "name" pusher.name ++ optionalMember "email" pusher.email)

end Pusher

namespace Push

/-- The form of a notification. -/
def shape : Shape :=
  .record "struct PushNotification"
    [.maybe "ref" .string, .maybe "before" .string, .maybe "after" .string,
      .maybe "compare" .string, .required "repository" Repository.shape,
      .required "head_commit" Commit.shape,
      .defaulted "commits" (.list []) (.list Commit.shape), .maybe "pusher" Pusher.shape]

/-- The push that a datum of this shape holds. -/
def ofDatum (d : Datum) : Push :=
  ⟨d.maybeText 0, d.maybeText 1, d.maybeText 2, d.maybeText 3,
    Repository.ofDatum (d.field 4), Commit.ofDatum (d.field 5),
    (d.field 6).asList.map Commit.ofDatum, (d.field 7).asOption Pusher.ofDatum⟩

/-- Reads the body of a notification. -/
def ofBytes (body : Bytes) : Except Json.Error Push :=
  (shape.ofJsonText body).map ofDatum

/-- The push as a JSON object. Absent details and an empty list of commits are left out. -/
def toJson (push : Push) : Json :=
  .object (optionalMember "ref" push.gitRef ++ optionalMember "before" push.before
    ++ optionalMember "after" push.after ++ optionalMember "compare" push.compare
    ++ ("repository", push.repository.toJson) :: ("head_commit", push.headCommit.toJson)
      :: ((if push.commits.isEmpty then []
          else [("commits", Json.array (push.commits.map Commit.toJson))])
        ++ (push.pusher.map fun pusher => ("pusher", pusher.toJson)).toList))

/-- The name by which the project is looked up. -/
def fullName (push : Push) : String := push.repository.fullName

/-- The revision that a build checks out. -/
def revision (push : Push) : String := push.headCommit.id

/-- The part of a reference behind the branch directory, or the reference itself. -/
def branchOfRef (gitRef : String) : String :=
  match "refs/heads/".toList.isPrefixOf? gitRef.toList with
  | some rest => String.ofList rest
  | none => gitRef

/-- The branch that was pushed to. -/
def branch (push : Push) : Option String := push.gitRef.map branchOfRef

end Push

end BuildHook
