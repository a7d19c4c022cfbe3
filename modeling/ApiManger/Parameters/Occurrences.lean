import ApiManger.Parameters.Archive
import ApiManger.Parameters.NameLaws

/-!
# Groups of occurrences

The loop of `build_profile_archive_plan` over the samples and the documents of their endpoints: which occurrences are
archived, and what they show of each parameter.
-/

namespace ApiManger.Parameters
open Python Collection

inductive Direction where
  | request | response
  deriving DecidableEq

/-- A document of a parameter at a sample of its endpoint, with the values that were accepted there. -/
structure Occurrence where
  direction : Direction
  parameter : String
  canonicalName : String
  pathid : Int
  values : List Json

/-- `parameter_data`. -/
structure ParameterMetadata where
  parameter : String
  parameterid : Int
  reqPathid : List Json
  resPathid : List Json

namespace Occurrence
variable (o : Occurrence)

def identity : String := parameterIdentity o.parameter o.canonicalName

/-- `occurrence_alias`, of the document. -/
def shownAs : String := occurrenceAlias o.parameter o.canonicalName

/-- It has an identity of a category that is archived, and values. -/
def isArchived (excluded : String → Bool) : Bool := o.identity != "" && !excluded o.identity && !o.values.isEmpty

theorem identity_ne_empty {o : Occurrence} {excluded : String → Bool} (archived : o.isArchived excluded = true) :
    o.identity ≠ "" := by
  simp only [isArchived, Bool.and_eq_true] at archived
  exact bne_iff_ne.mp archived.1.1

end Occurrence

/-- `Counter(names)`. -/
def nameCounts (names : List String) : List (String × ℕ) := names.eraseDups.map fun name => (name, names.count name)

/-- The row of metadata is of this identity and has a path of the group. -/
def ParameterMetadata.belongs (row : ParameterMetadata) (identity : String) (pathids : List Int) : Bool :=
  parameterIdentity row.parameter == identity &&
    (Json.pathidsOf (row.reqPathid ++ row.resPathid)).any fun pathid => pathids.contains pathid

def groupOf (archived : List Occurrence) (metadata : List ParameterMetadata) (identity : String) : ArchiveGroup :=
  let own := archived.filter (·.identity == identity)
  let requests := own.filter (·.direction == .request)
  let responses := own.filter (·.direction == .response)
  { identity := identity
    aliases := nameCounts ((own.map (·.shownAs)).filter (· != ""))
    parameterids := (metadata.filter fun row => (archived.map (·.parameter)).contains row.parameter &&
      row.belongs identity (own.map (·.pathid))).map (·.parameterid)
    reqPathids := requests.map (·.pathid)
    resPathids := responses.map (·.pathid)
    reqValues := requests.flatMap (·.values)
    resValues := responses.flatMap (·.values) }

theorem groupOf_identity (archived : List Occurrence) (metadata : List ParameterMetadata) (identity : String) :
    (groupOf archived metadata identity).identity = identity := rfl

theorem groupOf_shown (archived : List Occurrence) (metadata : List ParameterMetadata) (identity : String) :
    (groupOf archived metadata identity).aliases =
      nameCounts (((archived.filter (·.identity == identity)).map (·.shownAs)).filter (· != "")) := rfl

def archiveGroups (excluded : String → Bool) (read : List Occurrence) (metadata : List ParameterMetadata) :
    ArchiveGroups where
  groups := (sortedSet ((read.filter (·.isArchived excluded)).map (·.identity))).map
    (groupOf (read.filter (·.isArchived excluded)) metadata)
  ordered := by
    have increasing : (sortedSet ((read.filter (·.isArchived excluded)).map (·.identity))).Pairwise (· < ·) :=
      ((sortedSet_pairwise _).and (sortedSet_nodup _)).imp fun h => lt_of_le_of_ne h.1 h.2
    refine List.pairwise_map.mpr (increasing.imp fun {a b} less => ?_)
    rw [groupOf_identity, groupOf_identity]
    exact less
  identified := by
    intro g mem
    obtain ⟨identity, listed, made⟩ := List.mem_map.mp mem
    obtain ⟨o, archived, of_occurrence⟩ := List.mem_map.mp (mem_sortedSet.mp listed)
    rw [← made, groupOf_identity, ← of_occurrence]
    exact Occurrence.identity_ne_empty (List.mem_filter.mp archived).2

/-! ## Names of a group -/

/-- A name that normalization made, of this identity. -/
structure NameOf (identity name : String) : Prop where
  chars : ∀ c ∈ name.toList, isNameChar c = true
  canonical : canonicalName name = identity

theorem Occurrence.shownAs_nameOf {o : Occurrence} (identified : o.identity ≠ "") : NameOf o.identity o.shownAs :=
  ⟨occurrenceAlias_names _ _, (parameterIdentity_alias (occurrenceAlias_ne_empty identified)).symm⟩

theorem Occurrence.shownAs_ne_empty (o : Occurrence) (identified : o.identity ≠ "") : o.shownAs ≠ "" :=
  occurrenceAlias_ne_empty identified

theorem mem_nameCounts {names : List String} {entry : String × ℕ} (mem : entry ∈ nameCounts names) : entry.1 ∈ names := by
  obtain ⟨name, listed, rfl⟩ := List.mem_map.mp mem
  exact List.mem_eraseDups.mp listed

theorem nameCounts_named {names : List String} {name : String} (mem : name ∈ names) (present : name ≠ "") :
    ∃ e ∈ nameCounts names, e.1 ≠ "" :=
  ⟨(name, names.count name), List.mem_map.mpr ⟨name, List.mem_eraseDups.mpr mem, rfl⟩, present⟩

theorem greatestName_mem (identity : String) (first : String × ℕ) (rest : List (String × ℕ)) :
    greatestName identity first rest ∈ first :: rest := by
  unfold greatestName
  induction rest generalizing first with
  | nil => exact .head _
  | cons entry rest ih =>
    rw [List.foldl_cons]
    rcases List.mem_cons.mp (ih (if (nameKey identity first).less (nameKey identity entry) then entry else first))
      with chosen | later
    · rw [chosen]
      split
      · exact .tail _ (.head _)
      · exact .head _
    · exact .tail _ (.tail _ later)

/-- The name that is chosen is an alias, where there is one. -/
theorem preferredParameterName_mem (identity : String) {counts : List (String × ℕ)} (named : ∃ e ∈ counts, e.1 ≠ "") :
    ∃ e ∈ counts, preferredParameterName identity counts = e.1 := by
  unfold preferredParameterName
  dsimp only
  split
  · next empty =>
    exfalso
    obtain ⟨e, mem, present⟩ := named
    have kept : e ∈ counts.filter (·.1 != "") := List.mem_filter.mpr ⟨mem, bne_iff_ne.mpr present⟩
    split at empty
    · rw [empty] at kept
      cases kept
    · next compatible =>
      rw [empty] at compatible
      exact compatible rfl
  · next first rest listed =>
    have chosen := greatestName_mem identity first rest
    rw [← listed] at chosen
    refine ⟨_, ?_, rfl⟩
    split at chosen
    · exact List.mem_of_mem_filter chosen
    · exact List.mem_of_mem_filter (List.mem_of_mem_filter chosen)

variable {metadata : List ParameterMetadata}

/-- The aliases of a group are names of its identity. -/
theorem groupOf_aliases {archived : List Occurrence} {identity : String}
    (identified : identity ≠ "") {entry : String × ℕ} (mem : entry ∈ (groupOf archived metadata identity).aliases) :
    NameOf identity entry.1 := by
  obtain ⟨o, own, shown⟩ := List.mem_map.mp (List.mem_of_mem_filter (mem_nameCounts mem))
  have same : o.identity = identity := beq_iff_eq.mp (List.mem_filter.mp own).2
  have name := Occurrence.shownAs_nameOf (o := o) (by rwa [same])
  rwa [same, shown] at name

/-- An identity that was archived has an alias. -/
theorem groupOf_named {archived : List Occurrence} {o : Occurrence}
    (mem : o ∈ archived) (identified : o.identity ≠ "") :
    ∃ e ∈ (groupOf archived metadata o.identity).aliases, e.1 ≠ "" := by
  have own : o ∈ archived.filter (·.identity == o.identity) := List.mem_filter.mpr ⟨mem, beq_self_eq_true _⟩
  have present := o.shownAs_ne_empty identified
  have listed : o.shownAs ∈ ((archived.filter (·.identity == o.identity)).map (·.shownAs)).filter (· != "") :=
    List.mem_filter.mpr ⟨List.mem_map_of_mem own, bne_iff_ne.mpr present⟩
  rw [groupOf_shown]
  exact nameCounts_named listed present

/-- The name that is chosen for a group is one of its identity. -/
theorem preferredParameterName_nameOf {excluded : String → Bool} {read : List Occurrence} {g : ArchiveGroup} (mem : g ∈ (archiveGroups excluded read metadata).groups) :
    NameOf g.identity (preferredParameterName g.identity g.aliases) := by
  have identified := (archiveGroups excluded read metadata).identified g mem
  obtain ⟨identity, listed, made⟩ := List.mem_map.mp mem
  obtain ⟨o, archived, same⟩ := List.mem_map.mp (mem_sortedSet.mp listed)
  rw [← made, groupOf_identity] at identified ⊢
  obtain ⟨e, memE, chosen⟩ := preferredParameterName_mem identity (same ▸ groupOf_named archived (same ▸ identified))
  rw [chosen]
  exact groupOf_aliases identified memE

end ApiManger.Parameters
