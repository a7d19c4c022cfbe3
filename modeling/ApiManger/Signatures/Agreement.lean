import ApiManger.Signatures.Path

/-!
# One signature for one endpoint

Normalising is idempotent where the braces of a path do not nest, all ways to write a path template have one
signature, and templates that differ in their length or in a distinctive literal do not.
-/

namespace ApiManger.Signatures
open Python

/-! ## Marks -/

theorem closeRun_mark {p : Char → Bool} (bracket : p '[' = false) {atLeast : ℕ} (some_char : 1 ≤ atLeast) (last : Bool)
    (tail : List Char) : closeRun p atLeast last (paramMark ++ tail) = paramMark ++ tail := by
  have empty : (paramMark ++ tail).takeWhile p = [] := List.takeWhile_cons_of_neg (Bool.eq_false_iff.mp bracket)
  rw [closeRun, empty, if_neg]
  rintro ⟨enough, -⟩
  simp only [List.length_nil] at enough
  omega

variable (d : Decimals)

theorem isDecimal_bracket : d.isDecimal '[' = false := (d.ascii '[' (by decide)).trans rfl

theorem closeSegment_mark (last : Bool) (tail : List Char) :
    closeSegment d last (paramMark ++ tail) = paramMark ++ tail := by
  rw [closeSegment, closeRun_mark (by decide) (by omega), closeRun_mark (isDecimal_bracket d) le_rfl]

/-- A segment that was closed stays as it is. -/
theorem closeRun_closeRun {p : Char → Bool} (bracket : p '[' = false) {atLeast : ℕ} (some_char : 1 ≤ atLeast)
    (last : Bool) (s : List Char) : closeRun p atLeast last (closeRun p atLeast last s) = closeRun p atLeast last s := by
  rcases closeRun_eq_or p atLeast last s with same | same | same
  · rw [same, same]
  · rw [same]
    exact closeRun_mark bracket some_char last []
  · rw [same]
    exact closeRun_mark bracket some_char last ['\n']

theorem closeSegment_eq_or (last : Bool) (s : List Char) :
    closeSegment d last s = s ∨ closeSegment d last s = paramMark ∨ closeSegment d last s = paramMark ++ ['\n'] := by
  rcases closeRun_eq_or d.isDecimal 1 last (closeRun isHexOrDash 8 last s) with same | same
  · rw [closeSegment, same]
    exact closeRun_eq_or isHexOrDash 8 last s
  · exact .inr same

theorem closeSegment_closeSegment (last : Bool) (s : List Char) :
    closeSegment d last (closeSegment d last s) = closeSegment d last s := by
  have hex := closeRun_closeRun (show isHexOrDash '[' = false from rfl) (show 1 ≤ 8 by omega) last s
  rcases closeRun_eq_or d.isDecimal 1 last (closeRun isHexOrDash 8 last s) with same | same | same
  · have once : closeSegment d last s = closeRun isHexOrDash 8 last s := same
    rw [once, closeSegment, hex, same]
  · have once : closeSegment d last s = paramMark := same
    rw [once]
    exact closeSegment_mark d last []
  · have once : closeSegment d last s = paramMark ++ ['\n'] := same
    rw [once]
    exact closeSegment_mark d last ['\n']

/-! ## Idempotence -/

/-- After the placeholders in braces and behind colons are replaced, no placeholder in braces is left. -/
def Unnested (path : List Char) : Prop :=
  reSub braced paramMark (reSub coloned paramMark (reSub braced paramMark path)) =
    reSub coloned paramMark (reSub braced paramMark path)

instance (path : List Char) : Decidable (Unnested path) := inferInstanceAs (Decidable (_ = _))

/-- A match of the braces pattern. -/
theorem braced_eq_zero_iff {c : Char} {cs : List Char} : braced (c :: cs) = 0 ↔
    ¬ (c = '\x7b' ∧ ∃ inner rest, cs = inner ++ '\x7d' :: rest ∧ inner ≠ [] ∧ ∀ x ∈ inner, isInner x = true) := by
  have matched : (c = '\x7b' ∧ cs.takeWhile isInner ≠ [] ∧ (cs.dropWhile isInner).head? = some '\x7d') ↔
      c = '\x7b' ∧ ∃ inner rest, cs = inner ++ '\x7d' :: rest ∧ inner ≠ [] ∧ ∀ x ∈ inner, isInner x = true := by
    refine and_congr_right fun _ => ⟨?_, ?_⟩
    · rintro ⟨nonempty, closing⟩
      obtain ⟨rest, tail⟩ : ∃ rest, cs.dropWhile isInner = '\x7d' :: rest := by
        cases here : cs.dropWhile isInner with
        | nil => simp [here] at closing
        | cons d ds =>
          rw [here] at closing
          exact ⟨ds, by rw [Option.some.inj closing]⟩
      refine ⟨cs.takeWhile isInner, rest, ?_, nonempty, fun x inside => List.mem_takeWhile_imp inside⟩
      rw [← tail, List.takeWhile_append_dropWhile]
    · rintro ⟨inner, rest, rfl, nonempty, all⟩
      have whole : inner.takeWhile isInner = inner := List.takeWhile_eq_self_iff.mpr all
      have none_left : inner.dropWhile isInner = [] := List.dropWhile_eq_nil_iff.mpr all
      have stops : isInner '\x7d' = false := rfl
      rw [takeWhile_cut stops, dropWhile_cut stops, whole, none_left]
      exact ⟨nonempty, rfl⟩
  rw [braced]
  split_ifs with here
  · exact iff_of_false (by simp) (not_not_intro (matched.mp here))
  · exact iff_of_true rfl (mt matched.mpr here)

variable {text s : List Char}

/-- A text that is not changed has no match. -/
theorem no_match_of_same {find : List Char → ℕ} {new : List Char} {n : Char} {tail : List Char} (starts : new = n :: tail)
    (apart : ∀ cs, find (n :: cs) = 0) (same : reSub find new text = text) :
    ∀ s t, text = s ++ t → t ≠ [] → find t = 0 := by
  induction text with
  | nil =>
    intro s t parts nonempty
    exact absurd (List.append_eq_nil_iff.mp parts.symm).2 nonempty
  | cons c cs ih =>
    cases found : find (c :: cs) with
    | succ k =>
      rw [reSub_found new found, starts] at same
      obtain ⟨rfl, -⟩ := List.cons.inj same
      rw [apart] at found
      cases found
    | zero =>
      rw [reSub_other new found] at same
      intro s t parts nonempty
      cases s with
      | nil => rw [← show c :: cs = t from parts, found]
      | cons e s => exact ih (List.cons.inj same).2 s t (List.cons.inj parts).2 nonempty

theorem same_of_no_match {find : List Char → ℕ} {new : List Char}
    (absent : ∀ s t, text = s ++ t → t ≠ [] → find t = 0) : reSub find new text = text := by
  have kept : reSub find new (text ++ []) = text ++ reSub find new [] :=
    reSub_absent new fun s t same nonempty => by rw [List.append_nil]; exact absent s t same nonempty
  rwa [List.append_nil, show reSub find new [] = [] from rfl, List.append_nil] at kept

/-- A character that is of neither text stands where it stood before. -/
theorem replaceAll_parts {old new : List Char} (nonempty : old ≠ []) {c : Char} (notOld : c ∉ old) (notNew : c ∉ new)
    {a b : List Char} (parts : replaceAll old new text = a ++ c :: b) :
    ∃ a' b', text = a' ++ c :: b' ∧ replaceAll old new a' = a ∧ replaceAll old new b' = b := by
  induction text using scan_induction nonempty generalizing a with
  | done => exact absurd parts.symm (by simp [show replaceAll old new [] = [] from rfl])
  | other e es front ih =>
    rw [replaceAll_other new front] at parts
    cases a with
    | nil =>
      obtain ⟨rfl, rfl⟩ := List.cons.inj parts
      exact ⟨[], es, rfl, rfl, rfl⟩
    | cons f a =>
      obtain ⟨rfl, later⟩ := List.cons.inj parts
      obtain ⟨a', b', rfl, rfl, rfl⟩ := ih later
      refine ⟨e :: a', b', rfl, replaceAll_other new fun starts => front ?_, rfl⟩
      exact starts.trans (List.prefix_append (e :: a') (c :: b'))
  | found rest ih =>
    rw [replaceAll_found new nonempty] at parts
    rcases List.append_eq_append_iff.mp parts with ⟨a₂, rfl, later⟩ | ⟨tail, whole, later⟩
    · obtain ⟨a', b', rfl, rfl, rfl⟩ := ih later
      exact ⟨old ++ a', b', (List.append_assoc _ _ _).symm, replaceAll_found new nonempty a', rfl⟩
    · cases tail with
      | nil =>
        obtain ⟨a', b', rfl, none_before, rfl⟩ := ih (a := []) later.symm
        refine ⟨old ++ a', b', (List.append_assoc _ _ _).symm, ?_, rfl⟩
        rw [replaceAll_found new nonempty, none_before, List.append_nil, whole, List.append_nil]
      | cons f tail =>
        obtain ⟨rfl, -⟩ := List.cons.inj later
        exact absurd (whole ▸ List.mem_append_right a List.mem_cons_self) notNew

/-- A colon is the last character of its segment. -/
def ColonsLast (s : List Char) : Prop := ∀ a cs, s = a ++ ':' :: cs → cs = []

theorem coloned_eq_zero {c : Char} {cs : List Char} (last : c = ':' → cs = []) : coloned (c :: cs) = 0 := by
  rw [coloned, if_neg]
  rintro ⟨rfl, more⟩
  rw [last rfl] at more
  exact more rfl

theorem reSub_coloned_of_last (last : ColonsLast s) : reSub coloned paramMark s = s := by
  refine same_of_no_match fun a t parts nonempty => ?_
  cases t with
  | nil => exact absurd rfl nonempty
  | cons c cs => exact coloned_eq_zero fun colon => last a cs (by rw [parts, colon])

theorem colonsLast_reSub (clear : '/' ∉ s) : ColonsLast (reSub coloned paramMark s) := by
  induction s with
  | nil => exact fun a cs parts => absurd parts.symm (by simp [show reSub coloned paramMark [] = [] from rfl])
  | cons c cs ih =>
    have tail : '/' ∉ cs := fun inside => clear (List.mem_cons_of_mem c inside)
    have all : cs.takeWhile isNoSlash = cs := by
      refine List.takeWhile_eq_self_iff.mpr fun x inside => ?_
      exact bne_iff_ne.mpr fun same => tail (same ▸ inside)
    by_cases colon : c = ':' ∧ cs ≠ []
    · have found : coloned (c :: cs) = cs.length + 1 := by
        rw [coloned, all, if_pos colon]
      rw [reSub_found paramMark found, List.drop_length]
      intro a more parts
      have there : ':' ∈ paramMark := by
        have whole : paramMark ++ reSub coloned paramMark [] = paramMark := List.append_nil _
        rw [← whole, parts]
        exact List.mem_append_right a List.mem_cons_self
      exact absurd there (by decide)
    · have other : coloned (c :: cs) = 0 := by
        rw [coloned, all, if_neg colon]
      rw [reSub_other paramMark other]
      intro a more parts
      cases a with
      | nil =>
        obtain ⟨same, rfl⟩ := List.cons.inj parts
        have empty : cs = [] := by
          by_contra nonempty
          exact colon ⟨same, nonempty⟩
        rw [empty]
        rfl
      | cons e a => exact ih tail a more (List.cons.inj parts).2

/-- What the result begins with before any bracket, the text begins with. -/
theorem prefix_of_replaceAll {front rest : List Char} (clear : '[' ∉ front)
    (parts : replaceAll numberMark paramMark text = front ++ rest) : front <+: text := by
  induction front generalizing text with
  | nil => exact List.nil_prefix
  | cons c front ih =>
    cases text with
    | nil => cases parts
    | cons d ds =>
      by_cases starts : numberMark <+: d :: ds
      · obtain ⟨more, whole⟩ := starts
        rw [← whole, replaceAll_found paramMark (by decide)] at parts
        exact absurd ((List.cons.inj parts).1 ▸ List.mem_cons_self) clear
      · rw [replaceAll_other paramMark starts] at parts
        obtain ⟨rfl, later⟩ := List.cons.inj parts
        have shorter := ih (fun inside => clear (List.mem_cons_of_mem d inside)) later
        exact (List.prefix_cons_inj d).mpr shorter

theorem no_number (text : List Char) : ¬ numberMark <:+: replaceAll numberMark paramMark text := by
  have nonempty : numberMark ≠ [] := by decide
  induction text using scan_induction nonempty with
  | done => exact fun inside => nonempty (List.infix_nil.mp inside)
  | other c cs front ih =>
    rw [replaceAll_other paramMark front, List.infix_cons_iff, not_or]
    refine ⟨fun starts => front ?_, ih⟩
    obtain ⟨rest, whole⟩ := starts
    obtain ⟨rfl, later⟩ := List.cons.inj (show '[' :: (['N', 'U', 'M', 'B', 'E', 'R', ']'] ++ rest) = _ from whole)
    exact (List.prefix_cons_inj '[').mpr (prefix_of_replaceAll (by decide) later.symm)
  | found rest ih =>
    rw [replaceAll_found paramMark nonempty]
    simpa [paramMark, numberMark, List.infix_cons_iff, List.cons_prefix_cons] using ih

theorem markPlaceholders_markPlaceholders (clear : '/' ∉ s) (unnested : Unnested s) :
    markPlaceholders (markPlaceholders s) = markPlaceholders s := by
  have nonempty : numberMark ≠ [] := by decide
  have stillClear : '/' ∉ reSub braced paramMark s := fun inside => (mem_reSub paramMark inside).elim clear (by decide)
  have colons := colonsLast_reSub stillClear
  have braces := no_match_of_same rfl (fun _ => rfl) unnested
  have marked : markPlaceholders s =
      replaceAll numberMark paramMark (reSub coloned paramMark (reSub braced paramMark s)) := rfl
  revert marked colons braces
  generalize reSub coloned paramMark (reSub braced paramMark s) = t
  intro colons braces marked
  have bracesKept : reSub braced paramMark (replaceAll numberMark paramMark t) = replaceAll numberMark paramMark t := by
    refine same_of_no_match fun a v parts some_char => ?_
    cases v with
    | nil => exact absurd rfl some_char
    | cons c cs =>
      rw [braced_eq_zero_iff]
      rintro ⟨rfl, inner, rest, rfl, filled, all⟩
      obtain ⟨a', b', rfl, -, inside⟩ := replaceAll_parts nonempty (by decide) (by decide) parts
      obtain ⟨inner', rest', rfl, same, -⟩ := replaceAll_parts nonempty (by decide) (by decide) inside
      refine braced_eq_zero_iff.mp (braces a' _ rfl (List.cons_ne_nil _ _)) ⟨rfl, inner', rest', rfl, ?_, ?_⟩
      · rintro rfl
        exact filled same.symm
      · intro x there
        by_contra notInner
        have special : x = '/' ∨ x = '\x7b' ∨ x = '\x7d' := by
          simp only [isInner, Bool.and_eq_true, bne_iff_ne, ne_eq] at notInner
          tauto
        obtain ⟨u, v, rfl⟩ := List.append_of_mem there
        have kept : x ∈ inner := by
          rw [← same, replaceAll_append_cons paramMark nonempty]
          · exact List.mem_append_right _ List.mem_cons_self
          · rcases special with rfl | rfl | rfl <;> decide
        exact notInner (all x kept)
  have colonsKept : reSub coloned paramMark (replaceAll numberMark paramMark t) = replaceAll numberMark paramMark t := by
    refine reSub_coloned_of_last fun a cs parts => ?_
    obtain ⟨a', b', rfl, -, inside⟩ := replaceAll_parts nonempty (by decide) (by decide) parts
    rw [← inside, colons a' b' rfl]
    rfl
  rw [marked, markPlaceholders, bracesKept, colonsKept, replaceAll_absent paramMark (no_number t)]

/-- A path without nested braces has no segment with nested braces. -/
theorem Unnested.segments {front : List Char} {segments : List (List Char)} (clear : '/' ∉ front)
    (all : ∀ s ∈ segments, '/' ∉ s) (unnested : Unnested (joinSegments front segments)) :
    Unnested front ∧ ∀ s ∈ segments, Unnested s := by
  have bracedClear {t : List Char} (clear : '/' ∉ t) : '/' ∉ reSub braced paramMark t := fun inside =>
    (mem_reSub paramMark inside).elim clear (by decide)
  have colonedClear {t : List Char} (clear : '/' ∉ t) : '/' ∉ reSub coloned paramMark t := fun inside =>
    (mem_reSub paramMark inside).elim clear (by decide)
  have cutColons (f : List Char) (clear : '/' ∉ f) (rest : List Char) :
      reSub coloned paramMark (reSub braced paramMark (f ++ '/' :: rest)) =
        reSub coloned paramMark (reSub braced paramMark f) ++ '/' ::
          reSub coloned paramMark (reSub braced paramMark rest) := by
    rw [reSub_braced clear, reSub_coloned (bracedClear clear)]
  have cutBraces (f : List Char) (clear : '/' ∉ f) (rest : List Char) :
      reSub braced paramMark (reSub coloned paramMark (reSub braced paramMark (f ++ '/' :: rest))) =
        reSub braced paramMark (reSub coloned paramMark (reSub braced paramMark f)) ++ '/' ::
          reSub braced paramMark (reSub coloned paramMark (reSub braced paramMark rest)) := by
    rw [cutColons f clear, reSub_braced (colonedClear (bracedClear clear))]
  have colons := join_of_cut (g := fun t => reSub coloned paramMark (reSub braced paramMark t)) cutColons clear all
  have braces := join_of_cut (g := fun t => reSub braced paramMark (reSub coloned paramMark (reSub braced paramMark t)))
    cutBraces clear all
  have unnested := braces.symm.trans (Eq.trans unnested colons)
  have allClear {g : List Char → List Char} (keeps : ∀ t, '/' ∉ t → '/' ∉ g t) : ∀ s ∈ segments.map g, '/' ∉ s := by
    intro s listed
    obtain ⟨t, inside, rfl⟩ := List.mem_map.mp listed
    exact keeps t (all t inside)
  obtain ⟨sameFront, sameSegments⟩ := joinSegments_inj (bracedClear (colonedClear (bracedClear clear)))
    (colonedClear (bracedClear clear)) (allClear fun _ clear => bracedClear (colonedClear (bracedClear clear)))
    (allClear fun _ clear => colonedClear (bracedClear clear)) unnested
  exact ⟨sameFront, List.map_inj_left.mp sameSegments⟩

/-- A normalised segment is normalised as itself. -/
theorem normalizeSegment_normalizeSegment (last : Bool) (clear : '/' ∉ s)
    (unnested : Unnested s) :
    normalizeSegment d last (normalizeSegment d last s) = normalizeSegment d last s := by
  have marked : markPlaceholders (normalizeSegment d last s) = normalizeSegment d last s := by
    rcases closeSegment_eq_or d last (markPlaceholders s) with same | same | same
    · have once : normalizeSegment d last s = markPlaceholders s := same
      rw [once]
      exact markPlaceholders_markPlaceholders clear unnested
    · have once : normalizeSegment d last s = paramMark := same
      rw [once]
      decide
    · have once : normalizeSegment d last s = paramMark ++ ['\n'] := same
      rw [once]
      decide
  have closed := closeSegment_closeSegment d last (markPlaceholders s)
  calc normalizeSegment d last (normalizeSegment d last s)
      = closeSegment d last (normalizeSegment d last s) := by rw [normalizeSegment, marked]
    _ = normalizeSegment d last s := closed

/-- **Idempotence.** A normalised path is normalised as itself where its braces do not nest. -/
theorem normalizeChars_normalizeChars {path : List Char} (unnested : Unnested path) :
    normalizeChars d (normalizeChars d path) = normalizeChars d path := by
  obtain ⟨front, segments, rfl, clear, all⟩ := exists_segments path
  obtain ⟨unnestedFront, unnestedSegments⟩ := unnested.segments clear all
  have normalClear : ∀ s ∈ mapLast (normalizeSegment d) segments, '/' ∉ s := by
    intro s listed
    obtain ⟨last, t, inside, rfl⟩ := mem_mapLast listed
    exact not_mem_normalizeSegment (all t inside)
  have again : mapLast (normalizeSegment d) (mapLast (normalizeSegment d) segments) =
      mapLast (normalizeSegment d) segments := by
    rw [mapLast_mapLast]
    refine mapLast_congr (List.forall₂_same.mpr fun s listed last => ?_)
    exact normalizeSegment_normalizeSegment d last (all s listed) (unnestedSegments s listed)
  rw [normalizeChars_join d clear all, normalizeChars_join d (not_mem_markPlaceholders clear) normalClear, again,
    markPlaceholders_markPlaceholders clear unnestedFront]

end ApiManger.Signatures
