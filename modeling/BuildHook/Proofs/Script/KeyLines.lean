import BuildHook.Proofs.Build.Keys
import BuildHook.Proofs.Build.Sample
import Mathlib.Data.Set.Function

/-!
# Keys on a single line

A script is handed the key of its project on one line, with a mark for each line feed. The runner
splits it at the marks and joins the pieces by line feeds, so it also puts a line feed where the key
had the mark itself.

## Main results

`restoreKey_handed` says what the runner makes of the key that a script is handed, which keys come
back as they were, and which keys are told apart. `not_always_restored` is a key that comes back
changed.
-/

namespace BuildHook

/-- The key that the runner makes of what it is handed: the pieces between the marks, each on a line
of its own. -/
def restoreKey (handed : String) : String :=
  .ofList (['\n'].intercalate (handed.toList.splitOn keyLineMark))

/-- Splitting at a mark and joining by another one replaces the mark. -/
theorem intercalate_splitOn_mark (mark other : Char) (text : List Char) :
    [other].intercalate (text.splitOn mark) = text.map fun c => if c = mark then other else c := by
  induction text with
  | nil => rfl
  | cons c rest ih =>
    obtain ⟨first, more, pieces⟩ := List.exists_cons_of_ne_nil (List.splitOn_ne_nil mark rest)
    rw [pieces] at ih
    rw [List.splitOn_cons_eq_if_modifyHead, pieces, List.map_cons, ← ih]
    by_cases here : c = mark
    · rw [if_pos (beq_iff_eq.mpr here), if_pos here, List.intercalate_cons_cons]
      rfl
    · rw [if_neg (fun same => here (beq_iff_eq.mp same)), if_neg here]
      cases more with
      | nil => rw [List.modifyHead_cons, List.intercalate_singleton, List.intercalate_singleton]
      | cons second more =>
        rw [List.modifyHead_cons, List.intercalate_cons_cons, List.intercalate_cons_cons]
        rfl

theorem toList_restoreKey (handed : String) :
    (restoreKey handed).toList
      = handed.toList.map fun c => if c = keyLineMark then '\n' else c := by
  rw [restoreKey, String.toList_ofList, intercalate_splitOn_mark]

theorem toList_flattenKey (key : String) :
    (flattenKey key).toList = key.toList.map fun c => if c = '\n' then keyLineMark else c := by
  rw [flattenKey, String.toList_map]

/-- Replacing a mark by another one is undone by replacing the other one, but for those that were
there before. -/
theorem map_replaced_back (mark other : Char) (text : List Char) :
    (text.map fun c => if c = mark then other else c).map (fun c => if c = other then mark else c)
      = text.map fun c => if c = other then mark else c := by
  rw [List.map_map]
  apply List.map_congr_left
  intro c _
  rw [Function.comp_apply]
  by_cases here : c = mark
  · rw [if_pos here, if_pos rfl, here, ite_self]
  · rw [if_neg here]

/-- The runner cannot tell the marks of a key from those that stand for its line feeds. -/
theorem restoreKey_flattenKey (key : String) : restoreKey (flattenKey key) = restoreKey key := by
  apply String.toList_inj.mp
  rw [toList_restoreKey, toList_flattenKey, map_replaced_back, toList_restoreKey]

/-- Flattening a key again after the runner has restored it gives the same line. -/
theorem flattenKey_restoreKey (key : String) : flattenKey (restoreKey key) = flattenKey key := by
  apply String.toList_inj.mp
  rw [toList_flattenKey, toList_restoreKey, map_replaced_back, toList_flattenKey]

/-- What the runner restores is the key exactly if the key holds no mark. -/
theorem restoreKey_eq_self_iff (key : String) :
    restoreKey key = key ↔ keyLineMark ∉ key.toList := by
  rw [← String.toList_inj, toList_restoreKey]
  conv =>
    lhs
    rhs
    rw [← List.map_id key.toList]
  rw [List.map_inj_left]
  constructor
  · intro kept mem
    have same := kept _ mem
    rw [if_pos rfl] at same
    exact absurd same (by decide)
  · intro unmarked c mem
    have other : c ≠ keyLineMark := fun same => unmarked (same ▸ mem)
    exact if_neg other

/-- Two keys are flattened to one line exactly if the runner would restore the same from them. -/
theorem flattenKey_eq_iff (key key' : String) :
    flattenKey key = flattenKey key' ↔ restoreKey key = restoreKey key' := by
  constructor
  · intro same
    rw [← restoreKey_flattenKey key, same, restoreKey_flattenKey]
  · intro same
    rw [← flattenKey_restoreKey key, same, flattenKey_restoreKey]

/-- Keys without a mark are told apart. -/
theorem injOn_flattenKey : Set.InjOn flattenKey {key | keyLineMark ∉ key.toList} := by
  intro key unmarked key' unmarked' same
  calc
    key = restoreKey key := ((restoreKey_eq_self_iff key).mpr unmarked).symm
    _ = restoreKey key' := (flattenKey_eq_iff key key').mp same
    _ = key' := (restoreKey_eq_self_iff key').mpr unmarked'

/-- A flattened key is on one line. -/
theorem feed_not_mem_flattenKey (key : String) : '\n' ∉ (flattenKey key).toList := by
  rw [toList_flattenKey]
  intro mem
  obtain ⟨c, -, image⟩ := List.mem_map.mp mem
  split at image
  · exact absurd image (by decide)
  · next other => exact other image

namespace Build

open Procedure

/-- What a build binds to the name of the key is its project's key on one line. -/
theorem bound_sshKey {settings : Settings} {push : Push} {project : ProjectRecord}
    {h : List Exchange} {state : BuildState}
    (hl : Leads (run settings push project) h (.done state)) {x : Exchange} (mem : x ∈ h)
    {value : Json} (bound : x.question = .bind "sshKey" value) :
    value = .string (ScriptContext.ofPush push project.sshKey).sshKey := by
  obtain ⟨held, -, uses⟩ : ∃ held, (Request.bind "sshKey" value).Handles push project held := by
    rw [← bound]
    exact (run_keyed settings push project).forall_mem hl x mem
  simpa [Request.Uses, ScriptContext.bindings] using uses

end Build

namespace ScriptContext

/-- A script is handed the key of its project on one line, and the runner makes of it the key with a
line feed for each mark that the key itself holds. So the key comes back as it was exactly if it
holds no mark; two keys are handed over as the same text exactly if they are the same with line
feeds for their marks, and keys without a mark only if they are the same. What any build binds for
its script, whatever it is answered, is this text. -/
theorem restoreKey_handed (push : Push) (key : String) :
    let handed (key : String) := (ScriptContext.ofPush push (some key)).sshKey
    '\n' ∉ (handed key).toList
    ∧ (restoreKey (handed key)).toList = key.toList.map (fun c => if c = '$' then '\n' else c)
    ∧ (restoreKey (handed key) = key ↔ '$' ∉ key.toList)
    ∧ (∀ key', handed key = handed key' ↔ restoreKey key = restoreKey key')
    ∧ Set.InjOn handed {key | '$' ∉ key.toList}
    ∧ ∀ {σ : Type} (settings : Build.Settings) (name secret : String)
        (answer : (r : Build.Request) → σ → Build.Reply r × σ) (start : σ),
        ∀ x ∈ (Build.run settings push ⟨name, secret, some key⟩).history answer start,
        ∀ value, x.question = .bind "sshKey" value → value = .string (handed key) := by
  intro handed
  refine ⟨feed_not_mem_flattenKey key, ?_, ?_, flattenKey_eq_iff key, injOn_flattenKey, ?_⟩
  · change (restoreKey (flattenKey key)).toList = _
    rw [restoreKey_flattenKey]
    exact toList_restoreKey key
  · change restoreKey (flattenKey key) = key ↔ _
    rw [restoreKey_flattenKey]
    exact restoreKey_eq_self_iff key
  · intro σ settings name secret answer start x mem value bound
    exact Build.bound_sshKey (Procedure.leads_history answer _ start) mem bound

/-- A key with a mark between two letters comes back as two lines, and a key of these two lines is
handed over as the same text. -/
theorem not_always_restored :
    let handed (key : String) := (ofPush (Build.Sample.pushTo "a/b") (some key)).sshKey
    handed "a$b" = "a$b" ∧ restoreKey (handed "a$b") = "a\nb" ∧ handed "a\nb" = handed "a$b"
    ∧ (¬ ∀ (push : Push) (key : String), restoreKey (ofPush push (some key)).sshKey = key)
    ∧ ¬ Function.Injective flattenKey := by
  intro handed
  have same : flattenKey "a\nb" = flattenKey "a$b" := by decide +kernel
  have restored : restoreKey (handed "a$b") = "a\nb" := by decide +kernel
  refine ⟨by decide +kernel, restored, same, ?_, ?_⟩
  · intro always
    rw [always (Build.Sample.pushTo "a/b") "a$b"] at restored
    exact absurd restored (by decide)
  · intro injective
    exact absurd (injective same) (by decide)

end ScriptContext

end BuildHook
