import ApiManger.Chain.Names
import ApiManger.Python.Utf8

/-!
# Rendered paths

`render_path_template` fills the placeholders of a path with quoted values. A quoted value
holds no separator, so the segments of the rendered path are the segments of the template,
and unquoting the filled part of a segment gives the value back.
-/

namespace ApiManger.Chain
open Python

/-! ## Quoting -/

/-- A character that `quote` may write. -/
def isQuoted (c : Char) : Bool := isUnreserved c || c == '%'

theorem hexDigit_value {n : ℕ} (small : n < 16) : hexValue (hexDigit n) = some n := by
  have all : ∀ k : Fin 16, hexValue (hexDigit k) = some (k : ℕ) := by decide
  exact all ⟨n, small⟩

theorem hexDigit_unreserved {n : ℕ} (small : n < 16) : isUnreserved (hexDigit n) = true := by
  have all : ∀ k : Fin 16, isUnreserved (hexDigit k) = true := by decide
  exact all ⟨n, small⟩

theorem quote_chars {text : String} : ∀ c ∈ quote text, isQuoted c = true := by
  intro c mem
  unfold quote at mem
  obtain ⟨d, -, mem⟩ := List.mem_flatMap.mp mem
  split at mem
  · next kept =>
    cases List.mem_singleton.mp mem
    rw [isQuoted, kept, Bool.true_or]
  · obtain ⟨byte, -, mem⟩ := List.mem_flatMap.mp mem
    have range : byte.toNat < 256 := UInt8.toNat_lt byte
    simp only [List.mem_cons, List.not_mem_nil, or_false] at mem
    rcases mem with rfl | rfl | rfl
    · rfl
    · rw [isQuoted, hexDigit_unreserved (by omega), Bool.true_or]
    · rw [isQuoted, hexDigit_unreserved (by omega), Bool.true_or]

theorem unreserved_low {c : Char} (kept : isUnreserved c = true) : c.toNat < 128 ∧ c ≠ '%' := by
  refine ⟨?_, fun same => by subst same; cases kept⟩
  unfold isUnreserved Char.isAlphanum at kept
  simp only [Bool.or_eq_true, beq_iff_eq] at kept
  rcases kept with ((((letter | digit) | rfl) | rfl) | rfl) | rfl
  · have range := isAlpha_range letter
    omega
  · have range := isDigit_range digit
    omega
  all_goals decide

theorem utf8Bytes_low {c : Char} (low : c.toNat < 128) : (String.utf8EncodeChar c).map UInt8.toNat = [c.toNat] := by
  unfold String.utf8EncodeChar
  rw [show c.val.toNat = c.toNat from rfl]
  dsimp only
  rw [if_pos (by omega), List.map_cons, List.map_nil, UInt8.toNat_ofNat', Nat.mod_eq_of_lt (by omega)]

theorem unquoteFrom_escapes (before : List ℕ) (bytes : List UInt8) (cs : List Char) :
    unquoteFrom before ((bytes.flatMap fun byte =>
        ['%', hexDigit (byte.toNat / 16), hexDigit (byte.toNat % 16)]) ++ cs) =
      unquoteFrom (before ++ bytes.map UInt8.toNat) cs := by
  induction bytes generalizing before with
  | nil => rw [List.flatMap_nil, List.map_nil, List.append_nil, List.nil_append]
  | cons byte bytes ih =>
    have range : byte.toNat < 256 := UInt8.toNat_lt byte
    have first := hexDigit_value (n := byte.toNat / 16) (by omega)
    have second := hexDigit_value (n := byte.toNat % 16) (by omega)
    rw [List.flatMap_cons, List.append_assoc, List.map_cons]
    calc unquoteFrom before ('%' :: hexDigit (byte.toNat / 16) :: hexDigit (byte.toNat % 16) :: _)
        = unquoteFrom (before ++ [16 * (byte.toNat / 16) + byte.toNat % 16]) _ :=
          unquoteFrom_escape before first second _
      _ = unquoteFrom (before ++ [byte.toNat] ++ bytes.map UInt8.toNat) cs := by
          rw [show 16 * (byte.toNat / 16) + byte.toNat % 16 = byte.toNat by omega]
          exact ih _
      _ = unquoteFrom (before ++ byte.toNat :: bytes.map UInt8.toNat) cs := by
          rw [List.append_assoc]
          rfl

/-- **Round trip.** Unquoting gives the quoted text back. -/
theorem unquote_quote (text : String) : unquote (quote text) = text := by
  have reads : ∀ (cs : List Char) (before : List ℕ), unquoteFrom before (quote (String.ofList cs)) =
      decodeUtf8 (before ++ utf8Bytes cs) := by
    intro cs
    induction cs with
    | nil =>
      intro before
      rw [utf8Bytes, List.flatMap_nil, List.append_nil]
      exact unquoteFrom.eq_1 before
    | cons c cs ih =>
      intro before
      have tail := ih
      rw [quote, String.toList_ofList] at tail ⊢
      rw [utf8Bytes, List.flatMap_cons, List.flatMap_cons]
      split
      · next kept =>
        obtain ⟨low, plain⟩ := unreserved_low kept
        rw [List.singleton_append, unquoteFrom_plain before low plain, utf8Bytes_low low, tail, List.append_assoc]
        rfl
      · rw [unquoteFrom_escapes, tail, List.append_assoc]
        rfl
  have whole := reads text.toList []
  rw [String.ofList_toList, List.nil_append, decodeUtf8_bytes] at whole
  rw [unquote, whole, String.ofList_toList]

/-! ## Segments -/

def Piece.isLiteral : Piece → Bool
  | .literal _ => true
  | .placeholder _ _ => false

/-- A piece as the template has it. -/
def Piece.text : Piece → List Char
  | .literal c => [c]
  | .placeholder _ raw => raw

/-- The pieces between separators. -/
def segmentsOf (ps : List Piece) : List (List Piece) := ps.splitOn (.literal '/')

/-- A placeholder that has a value is not blank. -/
def Filled (values : Mapping Json) (ps : List Piece) : Prop :=
  ∀ name raw, .placeholder name raw ∈ ps → isBlank (values.get? name) = false

def namedValue (values : Mapping Json) : Piece → Option (String × String)
  | .literal _ => none
  | .placeholder name _ => (values.get? name).map fun v => (name, v.pyStr)

variable {values : Mapping Json} {ps : List Piece}

/-- A filled placeholder is its value, quoted. -/
theorem renderPiece_filled {name : String} (raw : List Char)
    (filled : isBlank (values.get? name) = false) :
    ∃ v, values.get? name = some v ∧ renderPiece values (.placeholder name raw) = quote v.pyStr := by
  unfold renderPiece
  cases found : values.get? name with
  | none => rw [found] at filled; cases filled
  | some v =>
    rw [found] at filled
    refine ⟨v, rfl, ?_⟩
    dsimp only
    rw [found]
    exact if_neg (Bool.eq_false_iff.mp filled)

theorem Filled.tail {p : Piece} (filled : Filled values (p :: ps)) :
    Filled values ps := fun name raw mem => filled name raw (.tail _ mem)

theorem Filled.of_subset {qs : List Piece} (filled : Filled values ps) (part : qs ⊆ ps) :
    Filled values qs := fun name raw mem => filled name raw (part mem)

/-- A character that a value may not bring. -/
theorem quote_no_separator {text : String} {c : Char} (mem : c ∈ quote text) : c ≠ '/' ∧ c ≠ '?' ∧ c ≠ '#' := by
  have kept := quote_chars c mem
  refine ⟨?_, ?_, ?_⟩ <;> rintro rfl <;> cases kept

theorem segmentsOf_slash (ps : List Piece) : segmentsOf (.literal '/' :: ps) = [] :: segmentsOf ps := by
  rw [segmentsOf, List.splitOn_cons_eq_if_modifyHead, if_pos (beq_self_eq_true _)]
  rfl

theorem segmentsOf_other {p : Piece} (other : p ≠ .literal '/') (ps : List Piece) :
    segmentsOf (p :: ps) = (segmentsOf ps).modifyHead (p :: ·) := by
  rw [segmentsOf, List.splitOn_cons_eq_if_modifyHead, if_neg (mt beq_iff_eq.mp other)]
  rfl

/-- There is a first segment. -/
theorem segmentsOf_head (ps : List Piece) : ∃ s rest, segmentsOf ps = s :: rest :=
  List.exists_cons_of_ne_nil (List.splitOn_ne_nil _ ps)

/-- Text without a separator stays in the segment it stands in front of. -/
theorem splitOn_append_left {front : List Char} (none : '/' ∉ front) (rest : List Char) :
    (front ++ rest).splitOn '/' = (rest.splitOn '/').modifyHead (front ++ ·) := by
  obtain ⟨s, ss, split⟩ := List.exists_cons_of_ne_nil (List.splitOn_ne_nil '/' rest)
  rw [split, List.modifyHead_cons]
  induction front with
  | nil => exact split
  | cons c front ih =>
    have other : c ≠ '/' := fun same => none (same ▸ .head _)
    rw [List.cons_append, List.splitOn_cons_eq_if_modifyHead, if_neg (mt beq_iff_eq.mp other),
      ih fun mem => none (.tail _ mem), List.modifyHead_cons]
    rfl

/-- A piece that is no separator brings none. -/
theorem renderPiece_no_slash {p : Piece} (filled : Filled values (p :: ps))
    (other : p ≠ .literal '/') : '/' ∉ renderPiece values p := by
  intro mem
  cases p with
  | literal c =>
    cases List.mem_singleton.mp mem
    exact other rfl
  | placeholder name raw =>
    obtain ⟨v, -, written⟩ := renderPiece_filled raw (filled name raw (.head _))
    rw [written] at mem
    exact (quote_no_separator mem).1 rfl

/-- The segments of the rendered path are the rendered segments of the template. -/
theorem splitOn_render (filled : Filled values ps) :
    (ps.flatMap (renderPiece values)).splitOn '/' = (segmentsOf ps).map (·.flatMap (renderPiece values)) := by
  induction ps with
  | nil => rfl
  | cons p ps ih =>
    have later := ih filled.tail
    by_cases slash : p = .literal '/'
    · subst slash
      rw [segmentsOf_slash, List.flatMap_cons, List.map_cons, ← later, renderPiece, List.singleton_append,
        List.splitOn_cons_eq_if_modifyHead, if_pos (beq_self_eq_true _)]
      rfl
    · obtain ⟨s, ss, split⟩ := segmentsOf_head ps
      rw [segmentsOf_other slash, List.flatMap_cons, splitOn_append_left (renderPiece_no_slash filled slash), later, split]
      rfl

/-- There are as many separators in the rendered path as among the literals of the template. -/
theorem count_render (filled : Filled values ps) :
    (ps.flatMap (renderPiece values)).count '/' = ps.count (.literal '/') := by
  induction ps with
  | nil => rfl
  | cons p ps ih =>
    rw [List.flatMap_cons, List.count_append, ih filled.tail]
    by_cases slash : p = .literal '/'
    · subst slash
      rw [List.count_cons_self]
      exact Nat.add_comm 1 _
    · rw [List.count_cons_of_ne slash, List.count_eq_zero_of_not_mem (renderPiece_no_slash filled slash), Nat.zero_add]

/-! ## Recovering the values -/

/-- The value that fills the placeholder of a segment: what stands between the literals around it, unquoted. -/
def recoverSegment (segment : List Piece) (text : List Char) : List (String × String) :=
  let front := segment.takeWhile Piece.isLiteral
  match segment.dropWhile Piece.isLiteral with
  | .placeholder name _ :: back =>
    let inside := text.drop front.length
    [(name, unquote (inside.take (inside.length - back.length)))]
  | _ => []

/-- The values that fill a template, from the rendered path. -/
def recover (template path : String) : List (String × String) :=
  ((segmentsOf (pieces template)).zip (path.toList.splitOn '/')).flatMap fun (segment, text) =>
    recoverSegment segment text

theorem render_literals (values : Mapping Json) (ps : List Piece) (literal : ∀ p ∈ ps, p.isLiteral = true) :
    (ps.flatMap (renderPiece values)).length = ps.length ∧ ps.filterMap (namedValue values) = [] := by
  induction ps with
  | nil => exact ⟨rfl, rfl⟩
  | cons p ps ih =>
    obtain ⟨long, none⟩ := ih fun q mem => literal q (.tail _ mem)
    cases p with
    | literal c =>
      refine ⟨?_, none⟩
      rw [List.flatMap_cons, List.length_append, long, List.length_cons]
      exact Nat.add_comm 1 _
    | placeholder name raw => cases literal (.placeholder name raw) (.head _)

/-- A segment with one placeholder gives its value back. -/
theorem recoverSegment_render {segment : List Piece} (filled : Filled values segment)
    (single : segment.countP (fun p => !p.isLiteral) ≤ 1) :
    recoverSegment segment (segment.flatMap (renderPiece values)) = segment.filterMap (namedValue values) := by
  have front := render_literals values (segment.takeWhile Piece.isLiteral) fun _ mem => List.mem_takeWhile_imp mem
  have whole := List.takeWhile_append_dropWhile (p := Piece.isLiteral) (l := segment)
  unfold recoverSegment
  dsimp only
  cases rest : segment.dropWhile Piece.isLiteral with
  | nil =>
    rw [rest, List.append_nil] at whole
    rw [whole] at front
    exact front.2.symm
  | cons p back =>
    have stops := dropWhile_head Piece.isLiteral segment p (by rw [rest]; rfl)
    cases p with
    | literal c => cases stops
    | placeholder name raw =>
      rw [rest] at whole
      have mem : .placeholder name raw ∈ segment := whole ▸ List.mem_append_right _ (.head _)
      obtain ⟨v, found, written⟩ := renderPiece_filled raw (filled name raw mem)
      have one : back.countP (fun p => !p.isLiteral) = 0 := by
        rw [← whole, List.countP_append, List.countP_cons_of_pos rfl] at single
        omega
      obtain ⟨long, none⟩ := render_literals values back fun q mem => by
        simpa using List.countP_eq_zero.mp one q mem
      dsimp only
      generalize segment.takeWhile Piece.isLiteral = literals at front whole
      subst whole
      rw [List.flatMap_append, List.flatMap_cons, written, ← front.1, List.drop_left, List.length_append, long,
        Nat.add_sub_cancel, List.take_left, unquote_quote, List.filterMap_append, front.2, List.filterMap_cons, none,
        namedValue, found]
      rfl

/-- The values of a template are those of its segments. -/
theorem flatMap_segments (values : Mapping Json) (ps : List Piece) :
    (segmentsOf ps).flatMap (·.filterMap (namedValue values)) = ps.filterMap (namedValue values) := by
  induction ps with
  | nil => rfl
  | cons p ps ih =>
    by_cases slash : p = .literal '/'
    · subst slash
      rw [segmentsOf_slash, List.flatMap_cons, ih]
      rfl
    · obtain ⟨s, ss, split⟩ := segmentsOf_head ps
      rw [segmentsOf_other slash, split, List.modifyHead_cons, List.flatMap_cons, List.filterMap_cons, List.filterMap_cons,
        ← ih, split, List.flatMap_cons]
      cases namedValue values p <;> rfl

/-- What stands in a segment stands in the template. -/
theorem segment_subset {segment : List Piece} (mem : segment ∈ segmentsOf ps) : segment ⊆ ps := by
  induction ps generalizing segment with
  | nil =>
    cases List.mem_singleton.mp mem
    exact List.nil_subset _
  | cons p ps ih =>
    by_cases slash : p = .literal '/'
    · subst slash
      rw [segmentsOf_slash] at mem
      rcases List.mem_cons.mp mem with rfl | mem
      · exact List.nil_subset _
      · exact List.Subset.trans (ih mem) (List.subset_cons_self _ _)
    · obtain ⟨s, ss, split⟩ := segmentsOf_head ps
      rw [segmentsOf_other slash, split, List.modifyHead_cons] at mem
      rcases List.mem_cons.mp mem with rfl | mem
      · have inner : s ⊆ ps := ih (by rw [split]; exact .head _)
        exact List.cons_subset_cons p inner
      · have inner : segment ⊆ ps := ih (by rw [split]; exact .tail _ mem)
        exact List.Subset.trans inner (List.subset_cons_self _ _)

/-- Where no segment holds two placeholders every value is recovered. -/
theorem recover_render {template : String} (filled : Filled values (pieces template))
    (single : ∀ segment ∈ segmentsOf (pieces template), segment.countP (fun p => !p.isLiteral) ≤ 1) :
    recover template (renderPathTemplate template values).1 = (pieces template).filterMap (namedValue values) := by
  unfold recover renderPathTemplate
  dsimp only
  rw [String.toList_ofList, splitOn_render filled, ← flatMap_segments, List.zip_map_right, List.flatMap_map]
  have each : ∀ segment ∈ segmentsOf (pieces template),
      recoverSegment segment (segment.flatMap (renderPiece values)) = segment.filterMap (namedValue values) :=
    fun segment mem => recoverSegment_render (filled.of_subset (segment_subset mem)) (single segment mem)
  generalize segmentsOf (pieces template) = segments at each
  induction segments with
  | nil => rfl
  | cons segment segments ih =>
    have here := each segment (.head _)
    have later := ih fun other mem => each other (.tail _ mem)
    rw [List.zip_cons_cons, List.flatMap_cons, List.flatMap_cons, later]
    exact congrArg (· ++ _) here

/-! ## The pieces make up the template -/

theorem namedBetween_split {opening closing cs name rest : List Char}
    (found : namedBetween opening closing cs = some (name, rest)) : ∃ tail, cs = opening ++ (tail ++ rest) := by
  unfold namedBetween at found
  simp only [Option.bind_eq_bind, Option.bind_eq_some_iff] at found
  obtain ⟨inside, opened, ⟨word, after⟩, taken, left, closed, last⟩ := found
  obtain ⟨rfl, rfl⟩ := Prod.mk.inj (Option.some.inj last)
  obtain ⟨spaced, -, -⟩ := takeName_some taken
  have closes : left <:+ after.dropWhile isSpace := ⟨closing, (afterText_some closed).symm⟩
  have named : after <:+ inside.dropWhile isSpace := ⟨word, spaced.symm⟩
  obtain ⟨tail, whole⟩ : left <:+ inside :=
    closes.trans ((List.dropWhile_suffix _).trans (named.trans (List.dropWhile_suffix _)))
  exact ⟨tail, by rw [whole, afterText_some opened]⟩

/-- A placeholder is written at the place where it is found. -/
theorem placeholderAt_split {before : Option Char} {cs name rest : List Char}
    (found : placeholderAt before cs = some (name, rest)) : ∃ c raw, cs = c :: (raw ++ rest) := by
  unfold placeholderAt at found
  rcases Option.or_eq_some_iff.mp found with double | ⟨-, found⟩
  · obtain ⟨tail, split⟩ := namedBetween_split double
    exact ⟨'\x7b', '\x7b' :: tail, split⟩
  · rcases Option.or_eq_some_iff.mp found with brace | ⟨-, found⟩
    · obtain ⟨tail, split⟩ := namedBetween_split brace
      exact ⟨'\x7b', tail, split⟩
    · split at found
      · cases found
      · obtain ⟨after, opened, taken⟩ := Option.bind_eq_some_iff.mp found
        obtain ⟨rfl, -, -⟩ := takeName_some taken
        exact ⟨':', name, afterText_some opened⟩

/-- The pieces of a text put together are the text. -/
theorem piecesFrom_text {fuel : ℕ} {before : Option Char} {cs : List Char} (room : cs.length ≤ fuel) :
    (piecesFrom fuel before cs).flatMap Piece.text = cs := by
  induction fuel generalizing before cs with
  | zero =>
    cases List.length_eq_zero_iff.mp (Nat.le_zero.mp room)
    rfl
  | succ fuel ih =>
    cases cs with
    | nil => rfl
    | cons c cs =>
      rw [piecesFrom]
      rw [List.length_cons] at room
      cases found : placeholderAt before (c :: cs) with
      | none =>
        dsimp only
        rw [List.flatMap_cons, ih (by omega)]
        rfl
      | some read =>
        obtain ⟨name, rest⟩ := read
        obtain ⟨d, raw, split⟩ := placeholderAt_split found
        obtain ⟨rfl, rfl⟩ := List.cons.inj split
        dsimp only
        rw [List.length_append] at room
        rw [List.flatMap_cons, ih (by omega), Piece.text, ← List.cons_append, List.length_append, Nat.add_sub_cancel,
          List.take_left]

/-! ## The path -/

theorem mem_foldl_names {names : List String} {name : String} :
    name ∈ ps.foldl (fun names piece => match piece with
      | .literal _ => names
      | .placeholder name _ => if names.contains name then names else names ++ [name]) names ↔
      name ∈ names ∨ ∃ raw, .placeholder name raw ∈ ps := by
  induction ps generalizing names with
  | nil => simp
  | cons p ps ih =>
    rw [List.foldl_cons, ih]
    cases p with
    | literal c => simp
    | placeholder other raw =>
      dsimp only
      split
      · next known =>
        have inside : other ∈ names := by simpa using known
        constructor
        · rintro (mem | ⟨raw', mem⟩)
          · exact .inl mem
          · exact .inr ⟨raw', .tail _ mem⟩
        · rintro (mem | ⟨raw', mem⟩)
          · exact .inl mem
          · rcases List.mem_cons.mp mem with same | mem
            · cases same
              exact .inl inside
            · exact .inr ⟨raw', mem⟩
      · constructor
        · rintro (mem | ⟨raw', mem⟩)
          · rcases List.mem_append.mp mem with mem | mem
            · exact .inl mem
            · cases List.mem_singleton.mp mem
              exact .inr ⟨raw, .head _⟩
          · exact .inr ⟨raw', .tail _ mem⟩
        · rintro (mem | ⟨raw', mem⟩)
          · exact .inl (List.mem_append_left _ mem)
          · rcases List.mem_cons.mp mem with same | mem
            · cases same
              exact .inl (List.mem_append_right _ (.head _))
            · exact .inr ⟨raw', mem⟩

theorem mem_placeholderNames {template name : String} :
    name ∈ placeholderNames template ↔ ∃ raw, .placeholder name raw ∈ pieces template := by
  refine Iff.trans mem_foldl_names ?_
  simp only [List.not_mem_nil, false_or]

/-- No name is missing exactly when every placeholder is filled. -/
theorem nothing_missing_iff {template : String} :
    (renderPathTemplate template values).2 = [] ↔ Filled values (pieces template) := by
  unfold renderPathTemplate
  dsimp only
  rw [List.filter_eq_nil_iff]
  constructor
  · intro given name raw mem
    exact Bool.eq_false_iff.mpr (given name (mem_placeholderNames.mpr ⟨raw, mem⟩))
  · intro filled name mem
    obtain ⟨raw, mem⟩ := mem_placeholderNames.mp mem
    exact Bool.eq_false_iff.mp (filled name raw mem)

/-- What a rendered path keeps of its template: the separators between the pieces that make up the
template, no separator from a value, and the values themselves, where no segment holds two. -/
structure KeepsStructure (template : String) (values : Mapping Json) : Prop where
  text : (pieces template).flatMap Piece.text = strip template
  separators : (renderPathTemplate template values).1.toList.count '/' = (pieces template).count (.literal '/')
  escaped : ∀ name raw, .placeholder name raw ∈ pieces template →
    ∀ c ∈ renderPiece values (.placeholder name raw), c ≠ '/' ∧ c ≠ '?' ∧ c ≠ '#'
  recovered : (∀ segment ∈ segmentsOf (pieces template), segment.countP (fun p => !p.isLiteral) ≤ 1) →
    recover template (renderPathTemplate template values).1 = (pieces template).filterMap (namedValue values)

example : recover "/v1/:kind/\x7bid\x7d.json" "/v1/a%2Fb/%E4%BD%A0.json" = [("kind", "a/b"), ("id", "你")] := by
  decide +kernel

end ApiManger.Chain
