import Mathlib.Data.List.Sort
import Mathlib.Data.String.Basic
import ApiManger.Python.Value

/-!
# Restore bodies

`_project_restore` and `_restore_body` of `apiAnalysis/tool/apifox_mutation_lifecycle.py`:
the part of a response that an update body names, searched in every object of the
response. `_sha256` of a value is represented by the value with its keys in order,
which takes SHA-256 as collision free.
-/

namespace ApiManger.Lifecycle
open Python

mutual

/-- `_sha256`: what `json.dumps(value, sort_keys=True)` tells apart. -/
def digest : Json → Json
  | .arr items => .arr (digestItems items)
  | .obj fields => .obj ((digestFields fields).insertionSort fun a b => a.1 ≤ b.1)
  | x => x

def digestItems : List Json → List Json
  | [] => []
  | x :: xs => digest x :: digestItems xs

def digestFields : List (String × Json) → List (String × Json)
  | [] => []
  | (k, x) :: rest => (k, digest x) :: digestFields rest

end

mutual

/-- `_project_restore`; `none` where it raises `KeyError`. -/
def projectRestore : Json → Json → Option Json
  | .obj template, source => match source with
    | .obj fields => (projectFields template fields).map .obj
    | _ => none
  | .arr _, _ => none
  | _, source => some source

def projectFields : List (String × Json) → Dict → Option (List (String × Json))
  | [], _ => some []
  | (key, value) :: rest, fields =>
    match Dict.get? fields key with
    | none => none
    | some source => match projectRestore value source, projectFields rest fields with
      | some projected, some others => some ((key, projected) :: others)
      | _, _ => none

end

mutual

/-- The objects of a response, in the order `visit` comes to them. -/
def objects : Json → List Dict
  | .obj fields => fields :: objectsOfFields fields
  | .arr items => objectsOfItems items
  | _ => []

def objectsOfItems : List Json → List Dict
  | [] => []
  | x :: xs => objects x ++ objectsOfItems xs

def objectsOfFields : List (String × Json) → List Dict
  | [] => []
  | (_, x) :: rest => objects x ++ objectsOfFields rest

end

/-- The projections `_restore_body` collects. -/
def restoreCandidates (template : Dict) (response : Json) : List Json :=
  (objects response).filterMap fun fields => projectRestore (.obj template) (.obj fields)

/-- `_restore_body`: the candidates have one digest; the last of them is kept. -/
def restoreBody (template : Dict) (response : Json) : Option Json :=
  match restoreCandidates template response with
  | [] => none
  | first :: rest =>
    if rest.all fun other => digest other == digest first then (first :: rest).getLast? else none

/-- What is restored has the digest of every candidate. -/
theorem restoreBody_candidate {template : Dict} {response body candidate : Json}
    (h : restoreBody template response = some body) (mem : candidate ∈ restoreCandidates template response) :
    digest body = digest candidate := by
  unfold restoreBody at h
  split at h
  · rename_i none_
    rw [none_] at mem
    cases mem
  · rename_i first rest some_
    split at h
    · rename_i same
      have digests : ∀ other ∈ first :: rest, digest other = digest first := by
        intro other mem
        rcases List.mem_cons.mp mem with rfl | later
        · rfl
        · simpa using List.all_eq_true.mp same other later
      rw [some_] at mem
      exact (digests body (List.mem_of_getLast? h)).trans (digests candidate mem).symm
    · cases h

/-- The template names values only, no objects. -/
def IsFlat (template : Dict) : Prop := ∀ e ∈ template, ∀ fields, e.2 ≠ .obj fields

/-- A flat template takes the named fields as they are. -/
theorem projectFields_flat {template fields : Dict} {projected : List (String × Json)} (flat : IsFlat template)
    (h : projectFields template fields = some projected) :
    (∀ e ∈ template, ∃ x, (e.1, x) ∈ projected) ∧ ∀ e ∈ projected, Dict.get? fields e.1 = some e.2 := by
  induction template generalizing projected with
  | nil =>
    cases h
    exact ⟨fun _ mem => (List.not_mem_nil mem).elim, fun _ mem => (List.not_mem_nil mem).elim⟩
  | cons e rest ih =>
    obtain ⟨key, value⟩ := e
    simp only [projectFields] at h
    cases held : Dict.get? fields key with
    | none => simp [held] at h
    | some source =>
      simp only [held] at h
      split at h
      · rename_i taken others value_ rest_
        cases h
        obtain rfl : taken = source := by
          cases value with
          | obj inner => exact absurd rfl (flat _ List.mem_cons_self inner)
          | arr items => simp [projectRestore] at value_
          | null | bool | int | float | str => simpa [projectRestore] using value_.symm
        obtain ⟨named, kept⟩ := ih (fun e mem => flat e (List.mem_cons_of_mem _ mem)) rest_
        refine ⟨fun e mem => ?_, fun e mem => ?_⟩
        · rcases List.mem_cons.mp mem with rfl | later
          · exact ⟨taken, List.mem_cons_self⟩
          · exact (named e later).imp fun _ mem => List.mem_cons_of_mem _ mem
        · rcases List.mem_cons.mp mem with rfl | later
          · exact held
          · exact kept e later
      · cases h

theorem digestFields_eq_map (fields : List (String × Json)) :
    digestFields fields = fields.map fun e => (e.1, digest e.2) := by
  induction fields with
  | nil => rfl
  | cons e rest ih =>
    obtain ⟨key, x⟩ := e
    rw [digestFields, ih, List.map_cons]

/-- Two objects of one digest have the same fields, up to the digests of their values. -/
theorem mem_of_digest_eq {fields fields' : Dict} (same : digest (.obj fields) = digest (.obj fields'))
    {key : String} {x : Json} (mem : (key, x) ∈ fields) : ∃ y, (key, y) ∈ fields' ∧ digest y = digest x := by
  simp only [digest, Json.obj.injEq, digestFields_eq_map] at same
  have perm : (fields.map fun e => (e.1, digest e.2)).Perm (fields'.map fun e => (e.1, digest e.2)) :=
    (List.perm_insertionSort _ _).symm.trans (List.Perm.trans (by rw [same]) (List.perm_insertionSort _ _))
  obtain ⟨⟨key', y⟩, there, e⟩ := List.mem_map.mp (perm.subset (List.mem_map.mpr ⟨(key, x), mem, rfl⟩))
  obtain ⟨rfl, digest_⟩ := Prod.mk.inj e
  exact ⟨y, there, digest_⟩

end ApiManger.Lifecycle
