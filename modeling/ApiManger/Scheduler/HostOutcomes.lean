import Mathlib
import ApiManger.Collection.Keyed
import ApiManger.Scheduler.HostPolicy

/-!
# The outcomes of one host

`record_outcome` as a fold: the stop state of a host after a sequence of outcomes,
and how the list of all hosts holds it. The persisted list is the same set of
states in another order, so that a coordinator restored from it gives every host
the state it had.
-/

namespace ApiManger.Scheduler
open Python Store Execution Collection

variable (policy : ExecutionPolicy) (hosts : List HostState) (host : String)

/-- `record_outcome` on the state of one host; where it raises it changes nothing. -/
def recordEach (h : HostState) (evidence : Dict) : HostState :=
  match countOutcome policy h evidence with
  | .ok h' => h'
  | .error _ => h

/-- A host no outcome was recorded for. -/
def newHost : HostState := ⟨host, 0, 0, 0, ""⟩

/-- The state of a host after a sequence of outcomes. -/
def foldOutcomes (outcomes : List Dict) : HostState :=
  outcomes.foldl (recordEach policy) (newHost host)

theorem foldOutcomes_append (outcomes : List Dict)
    (evidence : Dict) : foldOutcomes policy host (outcomes ++ [evidence]) =
      recordEach policy (foldOutcomes policy host outcomes) evidence := by
  rw [foldOutcomes, List.foldl_append]
  rfl

theorem countOutcome_host {policy : ExecutionPolicy} {h h' : HostState} {evidence : Dict}
    (count : countOutcome policy h evidence = .ok h') : h'.host = h.host := by
  unfold countOutcome at count
  dsimp only [bind, Except.bind, pure, Except.pure] at count
  split at count
  · exact (Except.ok.inj count) ▸ rfl
  · split at count
    · exact (Except.ok.inj count) ▸ rfl
    · split at count
      · exact (Except.ok.inj count) ▸ rfl
      · split at count
        · cases count
        · split at count
          · exact (Except.ok.inj count) ▸ rfl
          · exact (Except.ok.inj count) ▸ rfl

@[simp] theorem recordEach_host (h : HostState) (evidence : Dict) :
    (recordEach policy h evidence).host = h.host := by
  unfold recordEach
  split
  · exact countOutcome_host (by assumption)
  · rfl

/-! ## All hosts -/

@[simp] theorem hostStateOf_host :
    (hostStateOf hosts host).host = host := by
  unfold hostStateOf
  cases found : hosts.find? (·.host == host) with
  | none => rfl
  | some h => simpa using List.find?_some found

theorem hostStateOf_eq_lookup :
    hostStateOf hosts host = (lookup (·.host) hosts host).getD (newHost host) := rfl

theorem hostStateOf_put (h : HostState) (host : String) :
    hostStateOf (putHostState hosts h) host = if h.host = host then h else hostStateOf hosts host := by
  unfold putHostState
  split
  · next present =>
    simp only [hostStateOf_eq_lookup]
    rw [lookup_map (by intro g; split <;> simp_all)]
    obtain ⟨g, mem, isHost⟩ := List.any_eq_true.mp present
    rw [beq_iff_eq] at isHost
    by_cases same : h.host = host
    · rw [if_pos same]
      cases found : lookup (·.host) hosts host with
      | none => exact absurd (isHost.trans same) (lookup_eq_none.mp found g mem)
      | some g' => simp [lookup_key found, same]
    · rw [if_neg same]
      cases found : lookup (·.host) hosts host with
      | none => rfl
      | some g' =>
        have other : g'.host ≠ h.host := fun eq => same (eq.symm.trans (lookup_key found))
        simp [other]
  · next absent =>
    simp only [hostStateOf_eq_lookup, lookup_append]
    by_cases same : h.host = host
    · have none_ : lookup (·.host) hosts host = none := by
        refine lookup_eq_none.mpr fun g mem isHost => absent ?_
        exact List.any_eq_true.mpr ⟨g, mem, beq_iff_eq.mpr (isHost.trans same.symm)⟩
      simp [none_, same]
    · simp [same]

/-- What `record_outcome` leaves in the list, whether it raises or not. -/
theorem recordHostOutcome_hosts
    (evidence : Dict) : (match recordHostOutcome policy hosts host evidence with
      | .ok hosts => hosts
      | .error _ => putHostState hosts (hostStateOf hosts (hostKey host))) =
    putHostState hosts (recordEach policy (hostStateOf hosts (hostKey host)) evidence) := by
  unfold recordHostOutcome recordEach
  cases countOutcome policy (hostStateOf hosts (hostKey host)) evidence <;> rfl

/-- `_state` enters a host that is not there; it changes no state. -/
theorem hostStateOf_entered (host k : String) :
    hostStateOf (putHostState hosts (hostStateOf hosts host)) k = hostStateOf hosts k := by
  rw [hostStateOf_put, hostStateOf_host]
  split
  · next same => rw [same]
  · rfl

/-! ## Persisted hosts -/

theorem hostKey_ne : hostKey host ≠ "" := by
  intro empty
  have chars := congrArg String.toList empty
  unfold hostKey at chars
  simp only [String.toList_map] at chars
  split at chars
  · revert chars
    decide
  · simp_all

@[simp] theorem hostKey_hostKey : hostKey (hostKey host) = hostKey host := by
  have named : (hostKey host == "") = false := by simpa using hostKey_ne host
  rw [hostKey, named, hostKey]
  apply String.ext
  simp [String.toList_map, Function.comp_def]

/-- The hosts of a coordinator: each once, under its key. -/
structure Named (hosts : List HostState) : Prop where
  distinct : Distinct (·.host) hosts
  keyed : ∀ h ∈ hosts, hostKey h.host = h.host

theorem Named.nil : Named [] := ⟨List.nodup_nil, nofun⟩

theorem Named.put {hosts : List HostState} (named : Named hosts) {h : HostState}
    (keyed : hostKey h.host = h.host) : Named (putHostState hosts h) := by
  unfold putHostState
  split
  · refine ⟨named.distinct.map fun g => ?_, fun g mem => ?_⟩
    · split
      · next same => exact (beq_iff_eq.mp same).symm
      · rfl
    · obtain ⟨g', mem', rfl⟩ := List.mem_map.mp mem
      split
      · exact keyed
      · exact named.keyed g' mem'
  · next absent =>
    refine ⟨named.distinct.append fun g mem same => absent ?_, fun g mem => ?_⟩
    · exact List.any_eq_true.mpr ⟨g, mem, beq_iff_eq.mpr same⟩
    · rcases List.mem_append.mp mem with old | new
      · exact named.keyed g old
      · rw [List.mem_singleton.mp new]
        exact keyed

/-- `HostPolicyCoordinator.__init__` enters one persisted state after the other. -/
theorem restoreHosts_eq (persisted : List HostState) : restoreHosts persisted =
    persisted.foldl (fun hosts h => putHostState hosts { h with host := hostKey h.host }) [] := rfl

theorem named_restoreHosts (persisted : List HostState) : Named (restoreHosts persisted) := by
  rw [restoreHosts_eq]
  induction persisted using List.reverseRecOn with
  | nil => exact .nil
  | append_singleton persisted h ih =>
    rw [List.foldl_append]
    exact ih.put (hostKey_hostKey h.host)

/-- A coordinator restored from the hosts of another one, in whatever order they were stored,
gives every host the state it had. -/
theorem hostStateOf_restore {hosts persisted : List HostState} (named : Named hosts)
    (stored : persisted.Perm hosts) (host : String) :
    hostStateOf (restoreHosts persisted) host = hostStateOf hosts host := by
  have distinct : Distinct (·.host) persisted := by
    have same := stored.map fun h : HostState => h.host
    exact same.nodup_iff.mpr named.distinct
  have keyed : ∀ h ∈ persisted, hostKey h.host = h.host := fun h mem => named.keyed h (stored.mem_iff.mp mem)
  have step : hostStateOf (restoreHosts persisted) host = hostStateOf persisted host := by
    clear stored
    rw [restoreHosts_eq]
    induction persisted using List.reverseRecOn with
    | nil => rfl
    | append_singleton persisted h ih =>
      have distinct' : Distinct (·.host) persisted := by
        simp only [Distinct, List.map_append] at distinct ⊢
        exact (List.nodup_append.mp distinct).1
      rw [List.foldl_append, List.foldl_cons, List.foldl_nil, hostStateOf_put,
        ih distinct' fun g mem => keyed g (List.mem_append_left _ mem)]
      have isKey : hostKey h.host = h.host := keyed h (by simp)
      simp only [isKey, hostStateOf_eq_lookup, lookup_append]
      split
      · next same =>
        have absent : lookup (·.host) persisted host = none := by
          refine lookup_eq_none.mpr fun g mem isHost => ?_
          have eq := distinct.eq_of_key (List.mem_append_left [h] mem) (List.mem_append_right _ (.head _))
            (isHost.trans same.symm)
          subst eq
          simp only [Distinct, List.map_append] at distinct
          exact (List.nodup_append.mp distinct).2.2 g.host (List.mem_map_of_mem mem) g.host (by simp) rfl
        simp [absent]
      · simp
  rw [step, hostStateOf_eq_lookup, hostStateOf_eq_lookup]
  congr 1
  cases found : lookup (·.host) hosts host with
  | none =>
    refine lookup_eq_none.mpr fun g mem => lookup_eq_none.mp found g (stored.mem_iff.mp mem)
  | some h =>
    rw [← lookup_key found]
    exact distinct.lookup_of_mem (stored.mem_iff.mpr (lookup_mem found))

end ApiManger.Scheduler
