import ApiManger.Parameters.Identity

/-!
# Laws of parameter names

`normalized_leaf` takes the underscores from the ends of a name that it made, and after that it changes nothing more.
The identity of an occurrence is that of its alias.
-/

namespace ApiManger.Parameters
open Python

/-! ## Characters of a name -/

variable {c : Char}

theorem isNameChar_toNat (name : isNameChar c = true) :
    97 ≤ c.toNat ∧ c.toNat ≤ 122 ∨ 48 ≤ c.toNat ∧ c.toNat ≤ 57 ∨ c.toNat = 95 := by
  rw [isNameChar, isLowerOrDigit, Bool.or_eq_true, Bool.or_eq_true, Bool.and_eq_true, Bool.and_eq_true,
    decide_eq_true_eq, decide_eq_true_eq, decide_eq_true_eq, decide_eq_true_eq, beq_iff_eq] at name
  rcases name with (⟨low, high⟩ | ⟨low, high⟩) | rfl
  · exact .inl ⟨low, high⟩
  · exact .inr (.inl ⟨low, high⟩)
  · exact .inr (.inr rfl)

theorem isSpace_name (name : isNameChar c = true) : isSpace c = false := by
  have code := isNameChar_toNat name
  simp only [isSpace, Bool.or_eq_false_iff, Bool.and_eq_false_iff, decide_eq_false_iff_not, beq_eq_false_iff_ne]
  omega

theorem name_ne {d : Char} (name : isNameChar c = true) (other : isNameChar d = false) : c ≠ d := by
  rintro rfl
  rw [other] at name
  cases name

theorem name_not_capital (name : isNameChar c = true) : ¬('A'.val ≤ c.val ∧ c.val ≤ 'Z'.val) := by
  rintro ⟨low, high⟩
  have code := isNameChar_toNat name
  have low : 65 ≤ c.toNat := UInt32.le_iff_toNat_le.mp low
  have high : c.toNat ≤ 90 := UInt32.le_iff_toNat_le.mp high
  omega

theorem toLower_name (name : isNameChar c = true) : c.toLower = c := by
  unfold Char.toLower
  exact dif_neg (name_not_capital name)

/-! ## Steps of the normalization -/

section
variable {cs : List Char} (names : ∀ c ∈ cs, isNameChar c = true)
include names

theorem lastPart_names : lastPart (String.ofList cs) = String.ofList cs := by
  have whole : splitChars '.' cs = [cs] := by
    induction cs with
    | nil => rfl
    | cons c rest ih =>
      have dot : (c == '.') = false := beq_eq_false_iff_ne.mpr (name_ne (names c (.head _)) (by decide))
      rw [splitChars, dot, ih fun d mem => names d (.tail _ mem)]
      rfl
  rw [lastPart, split, String.toList_ofList, whole]
  rfl

theorem stripped_names : stripped (String.ofList cs) = String.ofList cs := by
  refine stripped_eq_self fun c mem => ?_
  rw [String.toList_ofList] at mem
  exact isSpace_name (names c mem)

theorem dropBrackets_names : dropBrackets false cs = cs := by
  induction cs with
  | nil => rfl
  | cons c rest ih =>
    have bracket : (c == '[') = false := beq_eq_false_iff_ne.mpr (name_ne (names c (.head _)) (by decide))
    rw [dropBrackets, bracket, Bool.false_and, if_neg Bool.false_ne_true, ih fun d mem => names d (.tail _ mem)]

theorem splitCamel_names : splitCamel cs = cs := by
  induction cs with
  | nil => rfl
  | cons c rest ih =>
    cases rest with
    | nil => rfl
    | cons d rest =>
      have small : ¬('A' ≤ d ∧ d ≤ 'Z') := name_not_capital (names d (.tail _ (.head _)))
      have plain : ¬((isLowerOrDigit c && decide ('A' ≤ d) && decide (d ≤ 'Z')) = true) := by
        rw [Bool.and_eq_true, Bool.and_eq_true, decide_eq_true_eq, decide_eq_true_eq]
        exact fun capital => small ⟨capital.1.2, capital.2⟩
      rw [splitCamel, if_neg plain, ih fun e mem => names e (.tail _ mem)]

theorem underscored_names : (cs.map fun c => if c == '-' then '_' else c) = cs := by
  refine (List.map_congr_left fun c mem => ?_).trans (List.map_id cs)
  have dash : (c == '-') = false := beq_eq_false_iff_ne.mpr (name_ne (names c mem) (by decide))
  rw [dash]
  rfl

theorem toLower_names : cs.map Char.toLower = cs :=
  (List.map_congr_left fun c mem => toLower_name (names c mem)).trans (List.map_id cs)

theorem filter_names : cs.filter isNameChar = cs := List.filter_eq_self.mpr names

/-- The last step of `canonical_name` finds a name as it is. -/
theorem leaf_names : leaf (String.ofList cs) = String.ofList cs := by
  rw [leaf, lastPart_names names, stripped_names names, lower, String.toList_ofList, String.toList_ofList,
    toLower_names names, filter_names names]

end

/-! ## Underscores -/

theorem collapse_cons {rest : List Char} (apart : ¬(c = '_' ∧ rest.head? = some '_')) :
    collapse (c :: rest) = c :: collapse rest := by
  rw [collapse]
  rintro more rfl rfl
  exact apart ⟨rfl, rfl⟩

theorem collapse_head? (cs : List Char) : (collapse cs).head? = cs.head? := by
  fun_induction collapse cs with
  | case1 rest ih => exact ih
  | case2 c rest => rfl
  | case3 => rfl

theorem collapse_collapse (cs : List Char) : collapse (collapse cs) = collapse cs := by
  fun_induction collapse cs with
  | case1 rest ih => exact ih
  | case2 c rest apart ih =>
    rw [collapse_cons, ih]
    rw [collapse_head?]
    rintro ⟨rfl, head⟩
    obtain ⟨more, rfl⟩ := List.head?_eq_some_iff.mp head
    exact apart more rfl rfl
  | case3 => rfl

theorem mem_of_mem_collapse {cs : List Char} (mem : c ∈ collapse cs) : c ∈ cs := by
  fun_induction collapse cs with
  | case1 rest ih => exact .tail _ (ih mem)
  | case2 d rest apart ih =>
    rcases List.mem_cons.mp mem with rfl | later
    · exact .head _
    · exact .tail _ (ih later)
  | case3 => exact mem

theorem collapse_getLast? (cs : List Char) : (collapse cs).getLast? = cs.getLast? := by
  fun_induction collapse cs with
  | case1 rest ih => rw [ih, List.getLast?_cons_cons]
  | case2 c rest apart ih => rw [List.getLast?_cons, List.getLast?_cons, ih]
  | case3 => rfl

/-- No underscore stands at an end. -/
structure Bare (cs : List Char) : Prop where
  head : cs.head? ≠ some '_'
  last : cs.getLast? ≠ some '_'

theorem Bare.stripUnderscores {cs : List Char} (bare : Bare cs) : stripUnderscores cs = cs := by
  have front : cs.dropWhile (· == '_') = cs := dropWhile_of_head fun c first =>
    beq_eq_false_iff_ne.mpr fun same => bare.head (same ▸ first)
  have back : cs.reverse.dropWhile (· == '_') = cs.reverse := dropWhile_of_head fun c first =>
    beq_eq_false_iff_ne.mpr fun same => bare.last (same ▸ List.head?_reverse ▸ first)
  rw [Parameters.stripUnderscores, front, back, List.reverse_reverse]

theorem Bare.collapse {cs : List Char} (bare : Bare cs) : Bare (collapse cs) :=
  ⟨collapse_head? cs ▸ bare.head, collapse_getLast? cs ▸ bare.last⟩

theorem stripUnderscores_bare (cs : List Char) : Bare (stripUnderscores cs) := by
  constructor
  · intro first
    obtain ⟨rest, whole⟩ := List.head?_eq_some_iff.mp first
    have inside : ∃ behind, cs.dropWhile (· == '_') = '_' :: behind := by
      have pref : (stripUnderscores cs) <+: cs.dropWhile (· == '_') := by
        rw [stripUnderscores, ← List.reverse_suffix, List.reverse_reverse]
        exact List.dropWhile_suffix _
      obtain ⟨tail, split_⟩ := pref
      exact ⟨rest ++ tail, by rw [← split_, whole]; rfl⟩
    obtain ⟨behind, same⟩ := inside
    have not_ := dropWhile_head (· == '_') cs '_' (by rw [same]; rfl)
    cases not_
  · intro final
    rw [stripUnderscores, List.getLast?_reverse] at final
    have not_ := dropWhile_head (· == '_') _ '_' final
    cases not_

theorem mem_of_mem_strip {cs : List Char} (mem : c ∈ stripUnderscores cs) : c ∈ cs := by
  rw [stripUnderscores, List.mem_reverse] at mem
  have inside := (List.dropWhile_suffix _).subset mem
  exact (List.dropWhile_suffix _).subset (List.mem_reverse.mp inside)

/-! ## Names that were normalized -/

theorem normalizedLeaf_names (text : String) : ∀ c ∈ (normalizedLeaf text).toList, isNameChar c = true := by
  intro c mem
  rw [normalizedLeaf, String.toList_ofList] at mem
  exact (List.mem_filter.mp (mem_of_mem_collapse mem)).2

/-- What normalization does to a name. -/
theorem normalizedLeaf_of_names {cs : List Char} (names : ∀ c ∈ cs, isNameChar c = true) :
    normalizedLeaf (String.ofList cs) = String.ofList (collapse (stripUnderscores cs)) := by
  have inner : ∀ c ∈ stripUnderscores cs, isNameChar c = true := fun c mem => names c (mem_of_mem_strip mem)
  rw [normalizedLeaf, stripped_names names, lastPart_names names, String.toList_ofList, dropBrackets_names names,
    splitCamel_names names, underscored_names names, toLower_names inner, filter_names inner]

/-- A name that was normalized again stays as it is. -/
theorem normalizedLeaf_settles {name : String} (names : ∀ c ∈ name.toList, isNameChar c = true) :
    normalizedLeaf (normalizedLeaf name) = normalizedLeaf name := by
  have first : normalizedLeaf name = String.ofList (collapse (stripUnderscores name.toList)) := by
    rw [← normalizedLeaf_of_names names, String.ofList_toList]
  have inner : ∀ c ∈ collapse (stripUnderscores name.toList), isNameChar c = true := fun c mem =>
    names c (mem_of_mem_strip (mem_of_mem_collapse mem))
  rw [first, normalizedLeaf_of_names inner, (stripUnderscores_bare _).collapse.stripUnderscores, collapse_collapse]

/-! ## Identities -/

/-- The aliases are names as normalization leaves them, and a canonical name is one of its aliases. -/
theorem canonicalAliases_plain : (canonicalAliases.all fun e =>
    e.2.contains e.1 && e.2.all fun a => normalizedLeaf a == a) = true := by
  decide +kernel

theorem alias_plain {e : String × List String} (mem : e ∈ canonicalAliases) :
    e.2.contains e.1 = true ∧ ∀ a ∈ e.2, normalizedLeaf a = a := by
  have both := List.all_eq_true.mp canonicalAliases_plain e mem
  rw [Bool.and_eq_true] at both
  exact ⟨both.1, fun a listed => beq_iff_eq.mp (List.all_eq_true.mp both.2 a listed)⟩

theorem canonicalAliases_named : (canonicalAliases.all fun e => e.1 != "") = true := by decide +kernel

section
-- the table is read through its laws
attribute [local irreducible] canonicalAliases
variable {name : String} (names : ∀ c ∈ name.toList, isNameChar c = true)
include names

theorem leaf_name : leaf name = name := by
  have same := leaf_names names
  rwa [String.ofList_toList] at same

/-- The canonical name of a name is its own, or that of the aliases in which it stands. -/
theorem canonicalName_cases : (canonicalName name = name ∧ ∀ e ∈ canonicalAliases, e.2.contains name = false) ∨
    ∃ e ∈ canonicalAliases, e.2.contains name = true ∧ canonicalName name = e.1 := by
  -- the equation of `canonicalName` would read the table
  delta canonicalName
  dsimp only
  rw [leaf_name names]
  cases found : canonicalAliases.find? fun entry => entry.2.contains name with
  | none => exact .inl ⟨rfl, fun e mem => Bool.eq_false_iff.mpr (List.find?_eq_none.mp found e mem)⟩
  | some e =>
    have listed := List.find?_some found
    exact .inr ⟨e, List.mem_of_find?_eq_some found, listed, rfl⟩

theorem canonicalName_ne_empty (present : name ≠ "") : canonicalName name ≠ "" := by
  rcases canonicalName_cases names with ⟨own, -⟩ | ⟨e, mem, -, same⟩
  · rwa [own]
  · intro empty
    exact bne_iff_ne.mp (List.all_eq_true.mp canonicalAliases_named e mem) (same.symm.trans empty)

end

theorem normalizedLeaf_empty : normalizedLeaf "" = "" := by decide +kernel

theorem canonicalName_empty : canonicalName "" = "" := by decide +kernel

theorem parameterIdentity_alone (name : String) : parameterIdentity name = canonicalName (normalizedLeaf name) := by
  have names := normalizedLeaf_names name
  unfold parameterIdentity
  rw [normalizedLeaf_empty]
  dsimp only
  by_cases empty : normalizedLeaf name = ""
  · rw [empty, canonicalName_empty]
    rfl
  · have candidate : (if (normalizedLeaf name != "") = true then normalizedLeaf name else "") = normalizedLeaf name :=
      if_pos (bne_iff_ne.mpr empty)
    have known := canonicalName_ne_empty names empty
    rw [candidate, Bool.and_comm, bne_self_eq_false, Bool.false_and, if_neg Bool.false_ne_true,
      if_pos (bne_iff_ne.mpr known)]

/-- The identity of an occurrence is the canonical name of its alias. -/
theorem parameterIdentity_alias {parameter hint : String} (present : occurrenceAlias parameter hint ≠ "") :
    parameterIdentity parameter hint = canonicalName (occurrenceAlias parameter hint) := by
  have known : canonicalName (occurrenceAlias parameter hint) ≠ "" := by
    refine canonicalName_ne_empty ?_ present
    unfold occurrenceAlias
    dsimp only
    split
    · exact normalizedLeaf_names parameter
    · exact normalizedLeaf_names hint
  have same : (if (normalizedLeaf parameter != "") = true then normalizedLeaf parameter else normalizedLeaf hint) =
      occurrenceAlias parameter hint := rfl
  have later : (canonicalName (occurrenceAlias parameter hint) == "") = false := beq_eq_false_iff_ne.mpr known
  unfold parameterIdentity
  dsimp only
  rw [same, later, Bool.false_and, if_neg Bool.false_ne_true, if_pos (bne_iff_ne.mpr known)]

theorem occurrenceAlias_names (parameter hint : String) :
    ∀ c ∈ (occurrenceAlias parameter hint).toList, isNameChar c = true := by
  unfold occurrenceAlias
  dsimp only
  split
  · exact normalizedLeaf_names parameter
  · exact normalizedLeaf_names hint

theorem occurrenceAlias_ne_empty {parameter hint : String} (identified : parameterIdentity parameter hint ≠ "") :
    occurrenceAlias parameter hint ≠ "" := by
  intro empty
  unfold occurrenceAlias at empty
  dsimp only at empty
  have raw : normalizedLeaf parameter = "" := by
    by_contra present
    rw [if_pos (bne_iff_ne.mpr present)] at empty
    exact present empty
  rw [raw, if_neg (by simp)] at empty
  apply identified
  unfold parameterIdentity
  rw [raw, empty]
  decide +kernel

/-- Where a name has the identity that another one stands for, the other one has it too. -/
theorem identity_of_crossing {name other : String} (names : ∀ c ∈ name.toList, isNameChar c = true)
    (others : ∀ c ∈ other.toList, isNameChar c = true) (same : parameterIdentity other = canonicalName name) :
    parameterIdentity name = canonicalName name := by
  rw [parameterIdentity_alone] at same ⊢
  rcases canonicalName_cases names with ⟨own, alone⟩ | ⟨e, mem, listed, -⟩
  · have settled := normalizedLeaf_settles others
    rcases canonicalName_cases (normalizedLeaf_names other) with ⟨own', -⟩ | ⟨e, mem, -, canonical⟩
    · rw [own', own] at same
      rw [← same, settled]
    · rw [canonical, own] at same
      have absent := alone e mem
      rw [← same, (alias_plain mem).1] at absent
      cases absent
  · rw [(alias_plain mem).2 name (List.contains_iff_mem.mp listed)]

end ApiManger.Parameters
