import Mathlib.Data.List.Forall2
import ApiManger.Signatures.Agreement

/-!
# Path templates

All ways to write a path template have one signature, and templates that differ in their length or in a distinctive
literal never share one.
-/

namespace ApiManger.Signatures
open Python

/-! ## Writing a template -/

inductive Segment where
  | literal (text : List Char)
  | placeholder
deriving DecidableEq

/-- A path in whose segments the placeholders fill the whole segment. -/
structure Template where
  front : List Char
  segments : List Segment
  frontClear : '/' ∉ front
  literalsClear : ∀ text, Segment.literal text ∈ segments → '/' ∉ text

/-- A name of a placeholder. -/
def IsName (name : List Char) : Prop := name ≠ [] ∧ ∀ c ∈ name, isInner c = true

/-- A decimal number, or a hexadecimal text or UUID of at least eight characters. -/
def IsId (d : Decimals) (text : List Char) : Prop :=
  text ≠ [] ∧ (∀ c ∈ text, d.isDecimal c = true) ∨ 8 ≤ text.length ∧ ∀ c ∈ text, isHexOrDash c = true

/-- The texts of a segment: a placeholder is written in braces, behind a colon, or as an identifier. -/
def Segment.Writes (d : Decimals) : Segment → List Char → Prop
  | .literal text, written => written = text
  | .placeholder, written =>
    (∃ name, IsName name ∧ written = '\x7b' :: name ++ ['\x7d']) ∨ (∃ name, IsName name ∧ written = ':' :: name) ∨
      IsId d written

def Template.Writes (d : Decimals) (t : Template) (path : String) : Prop :=
  ∃ texts, List.Forall₂ (Segment.Writes d) t.segments texts ∧ path.toList = joinSegments t.front texts

/-! ## Placeholders -/

variable {p : Char → Bool} {s text : List Char} {d : Decimals}

theorem closeRun_all {atLeast : ℕ} (enough : atLeast ≤ s.length)
    (all : ∀ c ∈ s, p c = true) (last : Bool) : closeRun p atLeast last s = paramMark := by
  have whole : s.takeWhile p = s := List.takeWhile_eq_self_iff.mpr all
  have none_left : s.dropWhile p = [] := List.dropWhile_eq_nil_iff.mpr all
  rw [closeRun, whole, none_left, if_pos ⟨enough, .inl rfl⟩, List.append_nil]

/-- A text that a run closes is the run, with a line break behind it or without. -/
def RunOf (p : Char → Bool) (s : List Char) : Prop :=
  ∃ run, (s = run ∨ s = run ++ ['\n']) ∧ ∀ c ∈ run, p c = true

theorem closeRun_other (other : ¬ RunOf p s) (atLeast : ℕ) (last : Bool) :
    closeRun p atLeast last s = s := by
  rw [closeRun, if_neg]
  rintro ⟨-, ends⟩
  have whole : s = s.takeWhile p ++ s.dropWhile p := List.takeWhile_append_dropWhile.symm
  refine other ⟨s.takeWhile p, ?_, fun c inside => List.mem_takeWhile_imp inside⟩
  rcases ends with none_left | ⟨-, line⟩
  · rw [none_left, List.append_nil] at whole
    exact .inl whole
  · rw [line] at whole
    exact .inr whole

theorem closeRun_of_no_line (noLine : '\n' ∉ s) (p : Char → Bool) (atLeast : ℕ) (last : Bool) :
    closeRun p atLeast last s = s ∨ closeRun p atLeast last s = paramMark := by
  unfold closeRun
  split_ifs with closes
  · refine .inr ?_
    rcases closes.2 with none_left | ⟨-, line⟩
    · rw [none_left, List.append_nil]
    · exact absurd ((List.dropWhile_sublist p).subset (line ▸ List.mem_cons_self)) noLine
  · exact .inl rfl

theorem no_match_in (noBrace : '\x7b' ∉ s) (noColon : ':' ∉ s) :
    reSub coloned paramMark (reSub braced paramMark s) = s := by
  have braces : reSub braced paramMark s = s := by
    refine same_of_no_match fun a t parts nonempty => ?_
    cases t with
    | nil => exact absurd rfl nonempty
    | cons c cs =>
      rw [braced_eq_zero_iff]
      rintro ⟨rfl, -⟩
      exact noBrace (parts ▸ List.mem_append_right a List.mem_cons_self)
  rw [braces]
  refine reSub_coloned_of_last fun a cs parts => ?_
  exact absurd (parts ▸ List.mem_append_right a List.mem_cons_self) noColon

/-- Text without braces, colons and number marks has no placeholders. -/
theorem markPlaceholders_literal (noBrace : '\x7b' ∉ s) (noColon : ':' ∉ s)
    (noNumber : ¬ numberMark <:+: s) : markPlaceholders s = s := by
  rw [markPlaceholders, no_match_in noBrace noColon, replaceAll_absent paramMark noNumber]

theorem markPlaceholders_of_class (brace : p '\x7b' = false) (colon : p ':' = false)
    (bracket : p '[' = false) {s : List Char} (all : ∀ c ∈ s, p c = true) : markPlaceholders s = s := by
  have absent {c : Char} (outside : p c = false) : c ∉ s := fun inside => by
    rw [all c inside] at outside
    cases outside
  refine markPlaceholders_literal (absent brace) (absent colon) fun inside => absent bracket ?_
  exact inside.subset List.mem_cons_self

theorem markPlaceholders_braced {name : List Char} (named : IsName name) :
    markPlaceholders ('\x7b' :: name ++ ['\x7d']) = paramMark := by
  have whole : (name ++ ['\x7d']).takeWhile isInner = name := by
    rw [takeWhile_cut (show isInner '\x7d' = false from rfl)]
    exact List.takeWhile_eq_self_iff.mpr named.2
  have closing : (name ++ ['\x7d']).dropWhile isInner = ['\x7d'] := by
    rw [dropWhile_cut (show isInner '\x7d' = false from rfl), List.dropWhile_eq_nil_iff.mpr named.2]
    rfl
  have found : braced ('\x7b' :: (name ++ ['\x7d'])) = (name.length + 1) + 1 := by
    rw [braced, whole, closing, if_pos ⟨rfl, named.1, rfl⟩]
  have marked : reSub braced paramMark ('\x7b' :: (name ++ ['\x7d'])) = paramMark := by
    rw [reSub_found paramMark found, List.drop_eq_nil_of_le (by simp)]
    rfl
  rw [List.cons_append, markPlaceholders, marked]
  decide

theorem markPlaceholders_coloned {name : List Char} (named : IsName name) :
    markPlaceholders (':' :: name) = paramMark := by
  have noBraces : reSub braced paramMark (':' :: name) = ':' :: name := by
    refine same_of_no_match fun a t parts nonempty => ?_
    cases t with
    | nil => exact absurd rfl nonempty
    | cons c cs =>
      rw [braced_eq_zero_iff]
      rintro ⟨rfl, -⟩
      have inside : '\x7b' ∈ ':' :: name := parts ▸ List.mem_append_right a List.mem_cons_self
      rcases List.mem_cons.mp inside with same | inside
      · cases same
      · exact Bool.false_ne_true (named.2 _ inside)
  have noSlash : ∀ c ∈ name, isNoSlash c = true := by
    intro c inside
    have inner := named.2 c inside
    simp only [isInner, Bool.and_eq_true] at inner
    exact inner.1.1
  have whole : name.takeWhile isNoSlash = name := List.takeWhile_eq_self_iff.mpr noSlash
  have found : coloned (':' :: name) = name.length + 1 := by
    rw [coloned, whole, if_pos ⟨rfl, named.1⟩]
  rw [markPlaceholders, noBraces, reSub_found paramMark found, List.drop_length]
  decide

theorem normalizeSegment_placeholder {written : List Char} (writes : Segment.placeholder.Writes d written)
    (last : Bool) : normalizeSegment d last written = paramMark := by
  rcases writes with ⟨name, named, rfl⟩ | ⟨name, named, rfl⟩ | ⟨nonempty, all⟩ | ⟨long, all⟩
  · rw [normalizeSegment, markPlaceholders_braced named]
    exact closeSegment_mark d last []
  · rw [normalizeSegment, markPlaceholders_coloned named]
    exact closeSegment_mark d last []
  · have kept : markPlaceholders written = written :=
      markPlaceholders_of_class (d.ascii '\x7b' (by decide)) (d.ascii ':' (by decide)) (isDecimal_bracket d) all
    have some_digit : 1 ≤ written.length := List.length_pos_iff.mpr nonempty
    rw [normalizeSegment, kept, closeSegment]
    have noLine : '\n' ∉ written := fun inside => by
      have digit := all '\n' inside
      rw [d.ascii '\n' (by decide)] at digit
      exact absurd digit (by decide)
    rcases closeRun_of_no_line noLine isHexOrDash 8 last with same | same
    · rw [same, closeRun_all some_digit all]
    · rw [same]
      exact closeRun_mark (isDecimal_bracket d) le_rfl last []
  · have kept : markPlaceholders written = written :=
      markPlaceholders_of_class (by decide) (by decide) (by decide) all
    rw [normalizeSegment, kept, closeSegment, closeRun_all long all]
    exact closeRun_mark (isDecimal_bracket d) le_rfl last []

/-! ## One signature -/

/-- Two writings of a template. -/
theorem Segment.Writes.same {segment : Segment} {other : List Char}
    (writes : segment.Writes d text) (writes' : segment.Writes d other) (last : Bool) :
    normalizeSegment d last text = normalizeSegment d last other := by
  cases segment with
  | literal written => rw [show text = written from writes, show other = written from writes']
  | placeholder => rw [normalizeSegment_placeholder writes, normalizeSegment_placeholder writes']

theorem Segment.Writes.clear {segment : Segment} (writes : segment.Writes d text)
    (literalsClear : ∀ written, segment = .literal written → '/' ∉ written) : '/' ∉ text := by
  have named {name : List Char} (named : IsName name) : '/' ∉ name := fun inside =>
    Bool.false_ne_true (named.2 '/' inside)
  cases segment with
  | literal written =>
    obtain rfl : text = written := writes
    exact literalsClear text rfl
  | placeholder =>
    rcases writes with ⟨name, isName, rfl⟩ | ⟨name, isName, rfl⟩ | ⟨-, all⟩ | ⟨-, all⟩
    · simpa using named isName
    · simpa using named isName
    · intro inside
      have digit := all '/' inside
      rw [d.ascii '/' (by decide)] at digit
      exact absurd digit (by decide)
    · exact fun inside => Bool.false_ne_true (all '/' inside)

/-- The segments that write a template have no slashes. -/
theorem Template.texts_clear (t : Template) {texts : List (List Char)}
    (writes : List.Forall₂ (Segment.Writes d) t.segments texts) : ∀ text ∈ texts, '/' ∉ text := by
  have literals := t.literalsClear
  revert literals writes
  generalize t.segments = segments
  intro writes
  induction writes with
  | nil => exact fun _ _ listed => nomatch listed
  | @cons segment text segments texts here later ih =>
    intro literals
    refine List.forall_mem_cons.mpr ⟨?_, ?_⟩
    · exact here.clear fun written same => literals written (same ▸ List.mem_cons_self)
    · exact ih fun written listed => literals written (List.mem_cons_of_mem segment listed)

/-- **Agreement.** All writings of a template are normalised to one path. -/
theorem Template.Writes.same {t : Template} {path other : String} (writes : t.Writes d path)
    (writes' : t.Writes d other) : normalizeSignaturePath d path = normalizeSignaturePath d other := by
  obtain ⟨texts, written, parts⟩ := writes
  obtain ⟨texts', written', parts'⟩ := writes'
  have segments : mapLast (normalizeSegment d) texts = mapLast (normalizeSegment d) texts' := by
    refine mapLast_congr (List.forall₂_iff_get.mpr ⟨written.length_eq.symm.trans written'.length_eq, ?_⟩)
    intro i inside inside' last
    have listed : i < t.segments.length := written.length_eq ▸ inside
    exact (written.get listed inside).same (written'.get listed inside') last
  rw [normalizeSignaturePath, parts, normalizeChars_join d t.frontClear (t.texts_clear written), segments,
    ← normalizeChars_join d t.frontClear (t.texts_clear written'), ← parts', normalizeSignaturePath]

/-! ## Different signatures -/

/-- A literal text that is closed by no substitution and holds no placeholder and no mark. -/
structure Distinctive (d : Decimals) (text : List Char) : Prop where
  notHex : ¬ RunOf isHexOrDash text
  notDecimal : ¬ RunOf d.isDecimal text
  noColon : ':' ∉ text
  noBrace : '\x7b' ∉ text ∧ '\x7d' ∉ text
  noMark : ¬ numberMark <:+: text ∧ ¬ paramMark <:+: text

/-- Templates that differ in their number of segments, or in a distinctive literal of the first. -/
def Template.Differs (d : Decimals) (t u : Template) : Prop :=
  t.segments.length ≠ u.segments.length ∨ Distinctive d t.front ∧ t.front ≠ u.front ∨
    ∃ (i : ℕ) (text : List Char), t.segments[i]? = some (.literal text) ∧ Distinctive d text ∧
      u.segments[i]? ≠ some (.literal text)

theorem Distinctive.marked (distinctive : Distinctive d text) :
    markPlaceholders text = text :=
  markPlaceholders_literal distinctive.noBrace.1 distinctive.noColon distinctive.noMark.1

theorem Distinctive.normalized (distinctive : Distinctive d text) (last : Bool) :
    normalizeSegment d last text = text := by
  rw [normalizeSegment, distinctive.marked, closeSegment, closeRun_other distinctive.notHex,
    closeRun_other distinctive.notDecimal]

/-- What is changed gets a mark. -/
theorem markPlaceholders_eq_or (s : List Char) :
    markPlaceholders s = s ∨ paramMark <:+: markPlaceholders s := by
  by_cases marked : paramMark <:+: markPlaceholders s
  · exact .inr marked
  · refine .inl ?_
    have numbers : markPlaceholders s = reSub coloned paramMark (reSub braced paramMark s) :=
      (replaceAll_eq_or paramMark (show numberMark ≠ [] by decide) _).resolve_right marked
    have unmarked : ¬ paramMark <:+: reSub coloned paramMark (reSub braced paramMark s) := numbers ▸ marked
    have colons := (reSub_eq_or paramMark (reSub braced paramMark s)).resolve_right unmarked
    have braces := (reSub_eq_or paramMark s).resolve_right (colons ▸ unmarked)
    calc markPlaceholders s = reSub coloned paramMark (reSub braced paramMark s) := numbers
      _ = reSub braced paramMark s := colons
      _ = s := braces

theorem normalizeSegment_eq_or (d : Decimals) (last : Bool) (s : List Char) :
    normalizeSegment d last s = s ∨ paramMark <:+: normalizeSegment d last s := by
  rcases closeSegment_eq_or d last (markPlaceholders s) with same | same | same
  · rw [normalizeSegment, same]
    exact markPlaceholders_eq_or s
  · exact .inr (by rw [normalizeSegment, same])
  · exact .inr (by rw [normalizeSegment, same]; exact (List.prefix_append paramMark ['\n']).isInfix)

/-- Only a distinctive text itself is normalised to it. -/
theorem Distinctive.eq_of_normalized {other : List Char} (distinctive : Distinctive d text)
    {last : Bool} (same : normalizeSegment d last text = normalizeSegment d last other) : other = text := by
  rw [distinctive.normalized] at same
  rcases normalizeSegment_eq_or d last other with kept | marked
  · rw [same, kept]
  · exact absurd (same ▸ marked) distinctive.noMark.2

theorem Distinctive.eq_of_marked {other : List Char} (distinctive : Distinctive d text)
    (same : markPlaceholders text = markPlaceholders other) : other = text := by
  rw [distinctive.marked] at same
  rcases markPlaceholders_eq_or other with kept | marked
  · rw [same, kept]
  · exact absurd (same ▸ marked) distinctive.noMark.2

theorem Distinctive.literal_of_writes (distinctive : Distinctive d text)
    {segment : Segment} (writes : segment.Writes d text) : segment = .literal text := by
  cases segment with
  | literal written => rw [show text = written from writes]
  | placeholder =>
    have marked := normalizeSegment_placeholder writes false
    rw [distinctive.normalized] at marked
    exact absurd (marked ▸ List.infix_refl paramMark) distinctive.noMark.2

/-- **Separation.** Writings of templates that differ are normalised to different paths. -/
theorem Template.Differs.separate {t u : Template} (differs : t.Differs d u) {path other : String}
    (writes : t.Writes d path) (writes' : u.Writes d other) :
    normalizeSignaturePath d path ≠ normalizeSignaturePath d other := by
  intro same
  obtain ⟨texts, written, parts⟩ := writes
  obtain ⟨texts', written', parts'⟩ := writes'
  have clear := t.texts_clear written
  have clear' := u.texts_clear written'
  have keptClear {segments : List (List Char)} (clear : ∀ s ∈ segments, '/' ∉ s) :
      ∀ s ∈ mapLast (normalizeSegment d) segments, '/' ∉ s := by
    intro s listed
    obtain ⟨last, text, inside, rfl⟩ := mem_mapLast listed
    exact not_mem_normalizeSegment (clear text inside)
  have chars : normalizeChars d path.toList = normalizeChars d other.toList := String.ofList_injective same
  rw [parts, parts', normalizeChars_join d t.frontClear clear, normalizeChars_join d u.frontClear clear'] at chars
  obtain ⟨fronts, segments⟩ := joinSegments_inj (not_mem_markPlaceholders t.frontClear)
    (not_mem_markPlaceholders u.frontClear) (keptClear clear) (keptClear clear') chars
  have alike := forall₂_of_mapLast segments
  rcases differs with lengths | ⟨distinctive, front⟩ | ⟨i, text, listed, distinctive, other⟩
  · exact lengths (written.length_eq.trans (alike.length_eq.trans written'.length_eq.symm))
  · exact front (distinctive.eq_of_marked fronts).symm
  · obtain ⟨inside, here⟩ := List.getElem?_eq_some_iff.mp listed
    have inTexts : i < texts.length := written.length_eq ▸ inside
    have inTexts' : i < texts'.length := alike.length_eq ▸ inTexts
    have inOther : i < u.segments.length := written'.length_eq ▸ inTexts'
    have literal : texts[i] = text := by
      have writes := written.get inside inTexts
      rw [List.get_eq_getElem, here] at writes
      exact writes
    obtain ⟨last, normal⟩ := alike.get inTexts inTexts'
    simp only [List.get_eq_getElem] at normal
    rw [literal] at normal
    have written' := written'.get inOther inTexts'
    simp only [List.get_eq_getElem] at written'
    rw [distinctive.eq_of_normalized normal] at written'
    refine other ?_
    rw [List.getElem?_eq_getElem inOther, distinctive.literal_of_writes written']

/-- **One signature for one endpoint.** Normalising is idempotent where braces do not nest; the writings of a template
share their signature; those of templates that differ do not. -/
theorem signatures_identify (d : Decimals) (upper : String → String) (method : String) :
    (∀ path : String, Unnested path.toList →
      normalizeSignaturePath d (normalizeSignaturePath d path) = normalizeSignaturePath d path) ∧
    (∀ (t : Template) (path other : String), t.Writes d path → t.Writes d other →
      abstractSignature d upper method path = abstractSignature d upper method other) ∧
    (∀ (t u : Template) (path other : String), t.Differs d u → t.Writes d path → u.Writes d other →
      abstractSignature d upper method path ≠ abstractSignature d upper method other) := by
  refine ⟨fun path unnested => ?_, fun t path other writes writes' => ?_, fun t u path other differs writes writes' => ?_⟩
  · rw [normalizeSignaturePath, normalizeSignaturePath, String.toList_ofList, normalizeChars_normalizeChars d unnested]
  · exact (abstractSignature_eq_iff method path other).mpr (writes.same writes')
  · exact mt (abstractSignature_eq_iff method path other).mp (differs.separate writes writes')

def asciiDecimals : Decimals := ⟨Char.isDigit, fun _ _ => rfl⟩

/-- `/<group>/{id}`. -/
def memberOf (group : List Char) (clear : '/' ∉ group) : Template where
  front := []
  segments := [.literal group, .placeholder]
  frontClear := List.not_mem_nil
  literalsClear := by
    intro text listed
    simp only [List.mem_cons, Segment.literal.injEq, List.not_mem_nil, or_false, reduceCtorEq] at listed
    exact listed ▸ clear

def users : Template := memberOf ['u', 's', 'e', 'r', 's'] (by decide)

def teams : Template := memberOf ['t', 'e', 'a', 'm', 's'] (by decide)

theorem users_writes_braced : users.Writes asciiDecimals "/users/\x7bid\x7d" := by
  refine ⟨[['u', 's', 'e', 'r', 's'], ['\x7b', 'i', 'd', '\x7d']], ?_, by decide⟩
  exact .cons (show _ = _ from rfl) (.cons (.inl ⟨['i', 'd'], ⟨by decide, List.all_eq_true.mp (by decide)⟩, rfl⟩) .nil)

theorem users_writes_number : users.Writes asciiDecimals "/users/42" := by
  refine ⟨[['u', 's', 'e', 'r', 's'], ['4', '2']], ?_, by decide⟩
  exact .cons (show _ = _ from rfl) (.cons (.inr (.inr (.inl ⟨by decide, List.all_eq_true.mp (by decide)⟩))) .nil)

theorem teams_writes_number : teams.Writes asciiDecimals "/teams/42" := by
  refine ⟨[['t', 'e', 'a', 'm', 's'], ['4', '2']], ?_, by decide⟩
  exact .cons (show _ = _ from rfl) (.cons (.inr (.inr (.inl ⟨by decide, List.all_eq_true.mp (by decide)⟩))) .nil)

theorem not_runOf {c : Char} (inside : c ∈ s) (notLine : c ≠ '\n')
    (outside : p c = false) : ¬ RunOf p s := by
  rintro ⟨run, same, all⟩
  have listed : c ∈ run := by
    rcases same with rfl | rfl
    · exact inside
    · rcases List.mem_append.mp inside with listed | line
      · exact listed
      · exact absurd (List.mem_singleton.mp line) notLine
  rw [all c listed] at outside
  cases outside

theorem users_differs : users.Differs asciiDecimals teams := by
  refine .inr (.inr ⟨0, ['u', 's', 'e', 'r', 's'], rfl, ?_, by decide⟩)
  exact ⟨not_runOf (c := 'u') (by decide) (by decide) rfl, not_runOf (c := 'u') (by decide) (by decide) rfl, by decide,
    by decide, by decide⟩

theorem users_identified :
    normalizeSignaturePath asciiDecimals (normalizeSignaturePath asciiDecimals "/users/:id") =
      normalizeSignaturePath asciiDecimals "/users/:id" ∧
    abstractSignature asciiDecimals id "GET" "/users/\x7bid\x7d" = abstractSignature asciiDecimals id "GET" "/users/42" ∧
    abstractSignature asciiDecimals id "GET" "/users/42" ≠ abstractSignature asciiDecimals id "GET" "/teams/42" :=
  ⟨(signatures_identify asciiDecimals id "GET").1 "/users/:id" (by decide),
    (signatures_identify asciiDecimals id "GET").2.1 users _ _ users_writes_braced users_writes_number,
    (signatures_identify asciiDecimals id "GET").2.2 users teams _ _ users_differs users_writes_number
      teams_writes_number⟩

/-- Double braces keep one pair, which the next normalisation takes; the two marks are one. -/
theorem double_braces_left :
    normalizeSignaturePath asciiDecimals "/users/\x7b\x7bid\x7d\x7d" = "/users/\x7b[PARAM]\x7d" ∧
    normalizeSignaturePath asciiDecimals "/users/\x7bid\x7d" = "/users/[PARAM]" ∧
    normalizeSignaturePath asciiDecimals (normalizeSignaturePath asciiDecimals "/users/\x7b\x7bid\x7d\x7d") = "/users/[PARAM]" ∧
    normalizeSignaturePath asciiDecimals "/[NUMBER]" = normalizeSignaturePath asciiDecimals "/[PARAM]" := by
  decide

end ApiManger.Signatures
