import ApiManger.Experiments.Placeholders
import ApiManger.ObjectIds.Positions

/-!
# What a substitution changes

The request with the identifiers of the victim differs from that of the attacker just where a name of an object has
another usable value of the victim. In the body that is the first value of the name.
-/

namespace ApiManger.ObjectIds
open Python Evidence Locators Experiments

/-! ## One position -/

/-- The value of the victim replaces a value under a key. -/
def SwapsAt (found : Option Json) (key : String) (old new : Json) : Prop :=
  isObjectIdParam key = true ∧ found = some new ∧ isUsable new = true ∧ new.pyStr ≠ old.pyStr

variable {key : String}

theorem replacement_eq_some_iff {found : Option Json} {old new : Json} :
    replacement found key old = some new ↔ SwapsAt found key old new := by
  unfold replacement SwapsAt
  split_ifs with named
  · rw [Option.filter_eq_some_iff, Option.filter_eq_some_iff, bne_iff_ne]
    simp only [named, true_and, and_assoc]
  · exact iff_of_false (fun none_there => nomatch none_there) fun swaps => named swaps.1

/-- A position differs just where the victim's value replaces the old one, and holds that value there. -/
structure Exactly (old new found : Option Json) (key : String) : Prop where
  differs : new ≠ old ↔ ∃ v w, old = some v ∧ SwapsAt found key v w
  holds : ∀ v w, old = some v → SwapsAt found key v w → new = some w

theorem exactly_of_eq {old new found : Option Json}
    (same : new = old.map fun v => (replacement found key v).getD v) : Exactly old new found key := by
  subst same
  have holds : ∀ v w, old = some v → SwapsAt found key v w →
      (old.map fun v => (replacement found key v).getD v) = some w := by
    rintro v w rfl swaps
    rw [Option.map_some, replacement_eq_some_iff.mpr swaps, Option.getD_some]
  refine ⟨⟨fun differs => ?_, ?_⟩, holds⟩
  · cases old with
    | none => exact absurd rfl differs
    | some v =>
      cases found_here : replacement found key v with
      | none => exact absurd (by rw [Option.map_some, found_here, Option.getD_none]) differs
      | some w => exact ⟨v, w, rfl, replacement_eq_some_iff.mp found_here⟩
  · rintro ⟨v, w, there, swaps⟩ same
    rw [holds v w there swaps, there] at same
    exact swaps.2.2.2 (by rw [Option.some.inj same])

/-! ## Query and path -/

variable (location : String) (victim : Mapping Json)

theorem get?_swapEntry (acc : Mapping Json × List Swap) (e : String × Json)
    (key : String) : (swapEntry location victim acc e).1.get? key =
      if e.1 = key then (replacement (victim.get? e.1) e.1 e.2).or (acc.1.get? key) else acc.1.get? key := by
  unfold swapEntry
  cases replacement (victim.get? e.1) e.1 e.2 with
  | none => rw [Option.none_or, ite_self]
  | some found => exact Mapping.get?_set acc.1 e.1 key found

theorem get?_foldl_swapEntry (items : Dict)
    (distinct : (items.map Prod.fst).Nodup) (acc : Mapping Json × List Swap)
    (there : ∀ e ∈ items, acc.1.get? e.1 = some e.2) (key : String) :
    (items.foldl (swapEntry location victim) acc).1.get? key =
      (acc.1.get? key).map fun v => if key ∈ items.map Prod.fst then (replacement (victim.get? key) key v).getD v else v := by
  induction items generalizing acc with
  | nil => simp
  | cons e rest ih =>
    rw [List.map_cons, List.nodup_cons] at distinct
    have kept : ∀ f ∈ rest, (swapEntry location victim acc e).1.get? f.1 = some f.2 := by
      intro f listed
      have other : e.1 ≠ f.1 := fun same => distinct.1 (same ▸ List.mem_map.mpr ⟨f, listed, rfl⟩)
      rw [get?_swapEntry, if_neg other]
      exact there f (List.mem_cons_of_mem e listed)
    rw [List.foldl_cons, ih distinct.2 _ kept, get?_swapEntry]
    by_cases same : e.1 = key
    · subst same
      rw [if_pos rfl, there e List.mem_cons_self, Option.map_some]
      cases replacement (victim.get? e.1) e.1 e.2 <;> simp [distinct.1]
    · have listed : key ∈ (e :: rest).map Prod.fst ↔ key ∈ rest.map Prod.fst := by
        rw [List.map_cons, List.mem_cons, or_iff_right (Ne.symm same)]
      rw [if_neg same]
      simp only [listed]

/-- What a flat part holds after swapping. -/
theorem get?_swapFlat (victim target : Mapping Json) (key : String) :
    (swapFlat location victim target).1.get? key =
      (target.get? key).map fun v => (replacement (victim.get? key) key v).getD v := by
  rw [swapFlat, get?_foldl_swapEntry location victim target.items target.distinct (target, [])
    fun e listed => Mapping.mem_iff.mp listed]
  cases there : target.get? key with
  | none => rfl
  | some v =>
    have listed : key ∈ target.items.map Prod.fst := List.mem_map.mpr ⟨_, Mapping.mem_iff.mpr there, rfl⟩
    rw [Option.map_some, Option.map_some, if_pos listed]

/-- The swap of an entry. -/
def swapOf (e : String × Json) : Option Swap :=
  (replacement (victim.get? e.1) e.1 e.2).map fun found => ⟨location, e.1, e.2, found⟩

theorem swaps_foldl_swapEntry (items : Dict)
    (acc : Mapping Json × List Swap) :
    (items.foldl (swapEntry location victim) acc).2 = acc.2 ++ items.filterMap (swapOf location victim) := by
  induction items generalizing acc with
  | nil => simp
  | cons e rest ih =>
    rw [List.foldl_cons, ih, List.filterMap_cons, swapEntry, swapOf]
    cases replacement (victim.get? e.1) e.1 e.2 <;> simp

/-- The swaps of a flat part, in the order of its items. -/
theorem swaps_swapFlat (victim target : Mapping Json) :
    (swapFlat location victim target).2 = target.items.filterMap (swapOf location victim) := by
  rw [swapFlat, swaps_foldl_swapEntry, List.nil_append]

theorem sublist_of_filterMap {α β γ : Type} {f : α → Option β} {g : β → γ} {h : α → γ}
    (same : ∀ a b, f a = some b → g b = h a) {list : List α} : ((list.filterMap f).map g).Sublist (list.map h) := by
  induction list with
  | nil => exact .slnil
  | cons a rest ih =>
    rw [List.filterMap_cons, List.map_cons]
    cases here : f a with
    | none => exact ih.cons _
    | some b =>
      rw [List.map_cons, same a b here]
      exact ih.cons_cons _

theorem forall₂_filterMap {α β γ : Type} {f : α → Option β} {g : α → γ} {R : γ → β → Prop} {list : List α}
    (related : ∀ a ∈ list, ∀ b, f a = some b → R (g a) b) :
    List.Forall₂ R ((list.filter fun a => (f a).isSome).map g) (list.filterMap f) := by
  induction list with
  | nil => exact .nil
  | cons a rest ih =>
    have later := ih fun b listed => related b (List.mem_cons_of_mem a listed)
    rw [List.filter_cons, List.filterMap_cons]
    cases here : f a with
    | none => exact later
    | some b => exact .cons (related a List.mem_cons_self b here) later

/-- Swaps that list just the positions of a flat part, each once, and that are collected there. -/
structure FlatListed (location : String) (old victim : Mapping Json) (collected : List ObjectId) (swaps : List Swap) :
    Prop where
  listed : ∀ s, s ∈ swaps ↔ s.location = location ∧ old.get? s.param = some s.attacker ∧
    SwapsAt (victim.get? s.param) s.param s.attacker s.victim
  once : (swaps.map (·.param)).Nodup
  collected : ∀ s ∈ swaps, ⟨location, s.param, s.attacker⟩ ∈ collected

theorem flatListed (old victim : Mapping Json) :
    FlatListed location old victim (collectFromFlat old location) (swapFlat location victim old).2 := by
  rw [swaps_swapFlat]
  have listed (s : Swap) : s ∈ old.items.filterMap (swapOf location victim) ↔ s.location = location ∧
      old.get? s.param = some s.attacker ∧ SwapsAt (victim.get? s.param) s.param s.attacker s.victim := by
    rw [List.mem_filterMap]
    constructor
    · rintro ⟨e, inside, here⟩
      obtain ⟨found, replaced, rfl⟩ := Option.map_eq_some_iff.mp here
      exact ⟨rfl, Mapping.mem_iff.mp inside, replacement_eq_some_iff.mp replaced⟩
    · obtain ⟨place, param, attacker, found⟩ := s
      rintro ⟨rfl, there, swaps⟩
      refine ⟨(param, attacker), Mapping.mem_iff.mpr there, ?_⟩
      rw [swapOf, replacement_eq_some_iff.mpr swaps, Option.map_some]
  refine ⟨listed, ?_, fun s inside => ?_⟩
  · refine List.Nodup.sublist (sublist_of_filterMap fun e s here => ?_) old.distinct
    obtain ⟨found, -, rfl⟩ := Option.map_eq_some_iff.mp here
    rfl
  · obtain ⟨-, there, swaps⟩ := (listed s).mp inside
    exact List.mem_map.mpr ⟨(s.param, s.attacker), List.mem_filter.mpr ⟨Mapping.mem_iff.mpr there, swaps.1⟩, rfl⟩

/-! ## The body -/

/-- Swaps that list just the positions of a body, each once, with the values there, and that are collected there;
outside lists the parameter is the one that is collected. -/
structure BodyListed (old new victim : Json) (collected : List ObjectId) (swaps : List Swap) : Prop where
  listed : ∃ positions : List (List Step), positions.Nodup ∧
    (∀ path, path ∈ positions ↔ ∃ key v w, lastKey path = some key ∧ scalarAt path old = some v ∧
      SwapsAt (firstNamed victim key) key v w) ∧
    List.Forall₂ (fun path s => s.location = "body" ∧ scalarAt path old = some s.attacker ∧
      scalarAt path new = some s.victim ∧ ⟨"body", bodyParam "" path, s.attacker⟩ ∈ collected ∧
      (names path = path → s.param = bodyParam "" path)) positions swaps

theorem holdsScalars_index (victim : Json) : HoldsScalars (indexLeafValues .empty victim) := by
  intro name found there
  rw [get?_indexLeafValues, Mapping.get?_empty, Option.none_or] at there
  exact isContainer_of_firstNamed there

theorem swapBody_exactly (old victim : Json) {path : List Step} (named : lastKey path = some key) :
    Exactly (scalarAt path old) (scalarAt path (swapBody (indexLeafValues .empty victim) "" old).1)
      (firstNamed victim key) key := by
  refine exactly_of_eq ?_
  rw [scalarAt_swapBody (holdsScalars_index victim)]
  congr 1
  funext v
  have found : (indexLeafValues .empty victim).get? key = firstNamed victim key := by
    rw [get?_indexLeafValues, Mapping.get?_empty, Option.none_or]
  rw [positionValue, named]
  dsimp only
  rw [found]

theorem bodyListed {old : Json} (once : KeysOnce old) (victim : Json) :
    BodyListed old (swapBody (indexLeafValues .empty victim) "" old).1 victim (collectFromBody "" old)
      (swapBody (indexLeafValues .empty victim) "" old).2 := by
  have are := entriesAre old once
  have found (key : String) : (indexLeafValues .empty victim).get? key = firstNamed victim key := by
    rw [get?_indexLeafValues, Mapping.get?_empty, Option.none_or]
  -- the swap of an entry, with the position it is about
  have swapsAt {e : List Step × Json} {s : Swap} (here : Swap.ofEntry (indexLeafValues .empty victim) "" e = some s) :
      ∃ key w, lastKey e.1 = some key ∧ SwapsAt (firstNamed victim key) key e.2 w ∧
        s = ⟨"body", bodyParam "" (names e.1), e.2, w⟩ := by
    obtain ⟨key, named, replaced⟩ := Option.bind_eq_some_iff.mp here
    obtain ⟨w, there, rfl⟩ := Option.map_eq_some_iff.mp replaced
    rw [found] at there
    exact ⟨key, w, named, replacement_eq_some_iff.mp there, rfl⟩
  refine ⟨⟨((entries old).filter fun e => (Swap.ofEntry (indexLeafValues .empty victim) "" e).isSome).map Prod.fst,
    List.Nodup.sublist (List.filter_sublist.map _) (nodup_entries old once), fun path => ?_, ?_⟩⟩
  · constructor
    · intro listed
      obtain ⟨e, inside, rfl⟩ := List.mem_map.mp listed
      obtain ⟨inEntries, isSwap⟩ := List.mem_filter.mp inside
      obtain ⟨s, here⟩ := Option.isSome_iff_exists.mp isSwap
      obtain ⟨key, w, named, swaps, -⟩ := swapsAt here
      exact ⟨key, e.2, w, named, ((are e.1 e.2).mp inEntries).1, swaps⟩
    · rintro ⟨key, v, w, named, there, swaps⟩
      have inEntries := (are path v).mpr ⟨there, by rw [named]; rfl⟩
      refine List.mem_map.mpr ⟨(path, v), List.mem_filter.mpr ⟨inEntries, ?_⟩, rfl⟩
      rw [Swap.ofEntry, named, Option.bind_some, found, replacement_eq_some_iff.mpr swaps]
      rfl
  · rw [swaps_eq]
    refine forall₂_filterMap fun e inEntries s here => ?_
    obtain ⟨key, w, named, swaps, rfl⟩ := swapsAt here
    obtain ⟨there, -⟩ := (are e.1 e.2).mp inEntries
    refine ⟨rfl, there, (swapBody_exactly old victim named).holds e.2 w there swaps, ?_, fun plain => ?_⟩
    · rw [collectFromBody_eq]
      refine List.mem_filterMap.mpr ⟨e, inEntries, ?_⟩
      rw [ObjectId.ofEntry, named, Option.bind_some, if_pos swaps.1]
    · show bodyParam "" (names e.1) = _
      rw [plain]

/-! ## The rendered url -/

/-- One of the pairs of a query stands in its text. -/
theorem infix_intercalate {sep part : List Char} {parts : List (List Char)} (listed : part ∈ parts) :
    part <:+: List.intercalate sep parts := by
  induction parts with
  | nil => cases listed
  | cons first rest ih =>
    cases rest with
    | nil =>
      rw [List.mem_singleton.mp listed, List.intercalate_singleton]
    | cons next rest =>
      rw [List.intercalate_cons_cons]
      rcases List.mem_cons.mp listed with rfl | later
      · rw [List.append_assoc]
        exact (List.prefix_append part _).isInfix
      · exact (ih later).trans (List.suffix_append _ _).isInfix

theorem queryTexts_scalar {value : Json} (scalar : isContainer value = false) : queryTexts value = [value.pyStr] := by
  cases value <;> first | rfl | cases scalar

/-- A scalar of the query is in the text of the query that is merged. -/
theorem infix_urlencode {pairs : List (String × Json)} {value : Json} (listed : (key, value) ∈ pairs)
    (scalar : isContainer value = false) :
    quotePlus key ++ '=' :: quotePlus value.pyStr <:+: urlencode pairs := by
  refine infix_intercalate (List.mem_flatMap.mpr ⟨(key, value), listed, ?_⟩)
  dsimp only
  rw [queryTexts_scalar scalar]
  exact List.mem_cons_self

theorem infix_urlunsplit {parts : SplitUrl} {query fragment text : List Char} (inside : text <:+: query)
    (some_char : text ≠ []) : text <:+: urlunsplit parts query fragment := by
  have nonempty : query.isEmpty = false := by
    cases query with
    | nil => exact absurd (List.infix_nil.mp inside) some_char
    | cons c cs => rfl
  have inQuery (url : List Char) : text <:+: url ++ '?' :: query :=
    inside.trans (((List.suffix_cons '?' query).isInfix).trans (List.suffix_append _ _).isInfix)
  unfold urlunsplit
  rw [nonempty]
  dsimp only
  split
  · exact inQuery _
  · exact (inQuery _).trans (List.prefix_append _ _).isInfix

/-- **Query.** A scalar of the query is carried by the merged url. -/
theorem infix_mergeUrlQuery {refusesNetloc : String → Bool} {url merged : List Char} {query : Dict}
    {value : Json} (listed : (key, value) ∈ query) (scalar : isContainer value = false)
    (done : mergeUrlQuery refusesNetloc url query = .ok merged) :
    quotePlus key ++ '=' :: quotePlus value.pyStr <:+: merged := by
  unfold mergeUrlQuery at done
  have nonempty : query.isEmpty = false := by
    cases query with
    | nil => cases listed
    | cons e rest => rfl
  rw [nonempty, if_neg Bool.false_ne_true] at done
  dsimp only at done
  split at done
  · cases done
  · cases done
    refine infix_urlunsplit (infix_urlencode (List.mem_append_right _ (List.mem_flatMap.mpr ⟨_, listed, ?_⟩)) scalar) ?_
    · cases value <;> first | exact List.mem_cons_self | cases scalar
    · simp

/-! ## The substitution -/

/-- The request differs just at the positions that are swapped. -/
structure Substituted (attacker victim new : RequestPayload) : Prop where
  query : ∀ key, Exactly (attacker.query.get? key) (new.query.get? key) (victim.query.get? key) key
  pathParams : ∀ key, Exactly (attacker.pathParams.get? key) (new.pathParams.get? key) (victim.pathParams.get? key) key
  body : ∀ path key, lastKey path = some key →
    Exactly (scalarAt path attacker.body) (scalarAt path new.body) (firstNamed victim.body key) key
  items : ∀ path, lastKey path = none → scalarAt path new.body = scalarAt path attacker.body
  shape : shape new.body = shape attacker.body
  others : new.url = attacker.url ∧ new.others = attacker.others

/-- The swaps list the positions, part by part. -/
def Listed (attacker victim new : RequestPayload) (swaps : List Swap) : Prop :=
  ∃ query path body, swaps = query ++ path ++ body ∧
    FlatListed "query" attacker.query victim.query (collectObjectIds attacker) query ∧
    FlatListed "path" attacker.pathParams victim.pathParams (collectObjectIds attacker) path ∧
    BodyListed attacker.body new.body victim.body (collectObjectIds attacker) body

/-- The rendered url carries the listed values: those of the query encoded, those of the path in the place of their
placeholders. -/
structure Carried (new : RequestPayload) (swaps : List Swap) (url : List Char) : Prop where
  rendered : new.renderedUrl = some (String.ofList url)
  query : ∀ s ∈ swaps, s.location = "query" → isContainer s.victim = false →
    quotePlus s.param ++ '=' :: quotePlus s.victim.pyStr <:+: url
  path : ∀ (t : UrlTemplate) (params : PathParameters), new.url.toList = t.text → params.items = new.pathParams.items →
    Untangled t params → urlsplit (Recipe.cleanedUrl url) = urlsplit (Recipe.cleanedUrl (t.filled params)) ∧
      ∀ s ∈ swaps, s.location = "path" → ∀ segment ∈ t.segments, segment.name? = some s.param →
        segment.filled params = s.victim.pyStr.toList

theorem FlatListed.mono {location : String} {old victim : Mapping Json} {collected more : List ObjectId}
    {swaps : List Swap} (flat : FlatListed location old victim collected swaps) (sub : collected ⊆ more) :
    FlatListed location old victim more swaps :=
  ⟨flat.listed, flat.once, fun s inside => sub (flat.collected s inside)⟩

theorem BodyListed.mono {old new victim : Json} {collected more : List ObjectId} {swaps : List Swap}
    (body : BodyListed old new victim collected swaps) (sub : collected ⊆ more) :
    BodyListed old new victim more swaps := by
  obtain ⟨positions, once, listed, related⟩ := body.listed
  exact ⟨positions, once, listed, related.imp fun _ _ ⟨place, there, here, inside, named⟩ =>
    ⟨place, there, here, sub inside, named⟩⟩

/-- Rendering changes the rendered url alone. -/
theorem buildIdorPayload_eq (refusesNetloc : String → Bool) (attacker victim : RequestPayload) :
    ∃ renderedUrl, (buildIdorPayload refusesNetloc attacker victim).1 = { attacker with
        query := (swapFlat "query" victim.query attacker.query).1
        pathParams := (swapFlat "path" victim.pathParams attacker.pathParams).1
        body := (swapBody (indexLeafValues .empty victim.body) "" attacker.body).1
        renderedUrl := renderedUrl } ∧
      ∀ url, renderRequestUrl refusesNetloc attacker.url.toList (swapFlat "path" victim.pathParams attacker.pathParams).1.items
        (swapFlat "query" victim.query attacker.query).1.items = .ok url → renderedUrl = some (String.ofList url) := by
  unfold buildIdorPayload
  dsimp only
  cases rendered : renderRequestUrl refusesNetloc attacker.url.toList
      (swapFlat "path" victim.pathParams attacker.pathParams).1.items
      (swapFlat "query" victim.query attacker.query).1.items with
  | error e => exact ⟨_, rfl, fun url done => nomatch done⟩
  | ok url => exact ⟨_, rfl, fun other done => by rw [Except.ok.inj done]⟩

theorem location_swapBody (index : Mapping Json) (front : String) (value : Json) :
    ∀ s ∈ (swapBody index front value).2, s.location = "body" := by
  intro s inside
  rw [swaps_eq] at inside
  obtain ⟨e, -, here⟩ := List.mem_filterMap.mp inside
  obtain ⟨key, -, replaced⟩ := Option.bind_eq_some_iff.mp here
  obtain ⟨w, -, rfl⟩ := Option.map_eq_some_iff.mp replaced
  rfl

theorem mem_items_swapFlat {location : String} {victim target : Mapping Json} {s : Swap}
    (inside : s ∈ (swapFlat location victim target).2) : (s.param, s.victim) ∈ (swapFlat location victim target).1.items := by
  obtain ⟨-, there, swaps⟩ := ((flatListed location target victim).listed s).mp inside
  exact Mapping.mem_iff.mpr ((exactly_of_eq (get?_swapFlat location victim target s.param)).holds _ _ there swaps)

/-- A swap of a location is one of its part. -/
theorem mem_of_location {query path body : List Swap} (inQuery : ∀ s ∈ query, s.location = "query")
    (inPath : ∀ s ∈ path, s.location = "path") (inBody : ∀ s ∈ body, s.location = "body") {s : Swap}
    (listed : s ∈ query ++ path ++ body) :
    (s.location = "query" → s ∈ query) ∧ (s.location = "path" → s ∈ path) := by
  have apart {a b : String} (first : s.location = a) (second : s.location = b) (different : a ≠ b) : s ∈ query ∧ s ∈ path :=
    absurd (first.symm.trans second) different
  rcases List.mem_append.mp listed with flat | later
  · rcases List.mem_append.mp flat with here | here
    · exact ⟨fun _ => here, fun place => (apart (inQuery s here) place (by decide)).2⟩
    · exact ⟨fun place => (apart (inPath s here) place (by decide)).1, fun _ => here⟩
  · exact ⟨fun place => (apart (inBody s later) place (by decide)).1,
      fun place => (apart (inBody s later) place (by decide)).2⟩

/-- An account, a device in the path, and orders in the body. -/
def orderRequest (account device first second : String) : RequestPayload where
  query := .ofItems [("account_id", .str account), ("page", .int 1)]
  pathParams := .ofItems [("deviceId", .str device)]
  body := .obj [("first", .obj [("order_id", .str first)]), ("second", .obj [("order_id", .str second)])]
  url := "https://shop.test/devices/\x7bdeviceId\x7d"
  renderedUrl := none
  others := []

end ApiManger.ObjectIds
