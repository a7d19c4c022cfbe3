import ApiManger.Python.CompactText
import ApiManger.Python.Replace
import ApiManger.Python.Substitute

/-!
# Signature paths

`normalize_signature_path` and `abstract_signature` of `apiAnalysis/tool/api_signature.py`. The five substitutions
act on each segment of a path alone: three mark the placeholders within a segment, two close a segment that is an
identifier.
-/

namespace ApiManger.Signatures
open Python

/-- The characters that `\d` matches: the decimal digits of all scripts. -/
structure Decimals where
  isDecimal : Char → Bool
  ascii : ∀ c, c.toNat < 128 → isDecimal c = c.isDigit

/-! ## The patterns -/

/-- `[^/\x7b\x7d]`. -/
def isInner (c : Char) : Bool := c != '/' && c != '\x7b' && c != '\x7d'

/-- `\\\x7b[^/\x7b\x7d]+\\\x7d`. -/
def braced : List Char → ℕ
  | [] => 0
  | c :: cs =>
    if c = '\x7b' ∧ cs.takeWhile isInner ≠ [] ∧ (cs.dropWhile isInner).head? = some '\x7d' then
      (cs.takeWhile isInner).length + 2
    else 0

/-- `[^/]`. -/
def isNoSlash (c : Char) : Bool := c != '/'

/-- `:[^/]+`. -/
def coloned : List Char → ℕ
  | [] => 0
  | c :: cs => if c = ':' ∧ cs.takeWhile isNoSlash ≠ [] then (cs.takeWhile isNoSlash).length + 1 else 0

/-- `(?=/|$)`; `$` also matches before a line break at the end. -/
def endsSegment : List Char → Bool
  | [] => true
  | c :: rest => c == '/' || c == '\n' && rest.isEmpty

/-- A slash, so many characters of a class, and `(?=/|$)`. -/
def slashRun (p : Char → Bool) (atLeast : ℕ) : List Char → ℕ
  | [] => 0
  | c :: cs =>
    if c = '/' ∧ atLeast ≤ (cs.takeWhile p).length ∧ endsSegment (cs.dropWhile p) = true then
      (cs.takeWhile p).length + 1
    else 0

/-- `[0-9a-fA-F-]`. -/
def isHexOrDash (c : Char) : Bool := c.isDigit || 'a' ≤ c && c ≤ 'f' || 'A' ≤ c && c ≤ 'F' || c == '-'

def paramMark : List Char := ['[', 'P', 'A', 'R', 'A', 'M', ']']

def numberMark : List Char := ['[', 'N', 'U', 'M', 'B', 'E', 'R', ']']

/-! ## The function -/

/-- The substitutions within segments. -/
def markPlaceholders (path : List Char) : List Char :=
  replaceAll numberMark paramMark (reSub coloned paramMark (reSub braced paramMark path))

variable (d : Decimals)

/-- `normalize_signature_path`, on characters. -/
def normalizeChars (path : List Char) : List Char :=
  reSub (slashRun d.isDecimal 1) ('/' :: paramMark)
    (reSub (slashRun isHexOrDash 8) ('/' :: paramMark) (markPlaceholders path))

def normalizeSignaturePath (path : String) : String := String.ofList (normalizeChars d path.toList)

/-- `abstract_signature(method, path)`, without query and body. -/
def abstractSignature (upper : String → String) (method path : String) : String :=
  (Json.obj [("method", .str (upper (if method = "" then "GET" else method))),
    ("path", .str (normalizeSignaturePath d path)), ("route_query", .obj []), ("query_keys", .arr []),
    ("body_shape", .obj [("content_type", .str ""), ("keys", .arr [])])]).dumpsCompact

/-- Signatures of one method agree just where the normalised paths do. -/
theorem abstractSignature_eq_iff {d : Decimals} {upper : String → String} (method path other : String) :
    abstractSignature d upper method path = abstractSignature d upper method other ↔
      normalizeSignaturePath d path = normalizeSignaturePath d other := by
  constructor
  · intro same
    have document (p : String) : (Json.obj [("method", .str (upper (if method = "" then "GET" else method))),
        ("path", .str p), ("route_query", .obj []), ("query_keys", .arr []),
        ("body_shape", .obj [("content_type", .str ""), ("keys", .arr [])])]).isDocument id = true := rfl
    exact Json.Same.str ((dumpsCompact_inj (document _) (document _)).mp same |>.get "path")
  · intro same
    rw [abstractSignature, abstractSignature, same]

/-! ## Segments -/

/-- The text before the first slash, and the segments behind slashes. -/
def joinSegments (front : List Char) (segments : List (List Char)) : List Char :=
  front ++ segments.flatMap ('/' :: ·)

theorem joinSegments_cons (front s : List Char) (rest : List (List Char)) :
    joinSegments front (s :: rest) = front ++ '/' :: joinSegments s rest := by
  rw [joinSegments, joinSegments, List.flatMap_cons]
  rfl

theorem exists_segments (path : List Char) : ∃ front segments, path = joinSegments front segments ∧ '/' ∉ front ∧
    ∀ s ∈ segments, '/' ∉ s := by
  induction path with
  | nil => exact ⟨[], [], rfl, List.not_mem_nil, fun _ listed => nomatch listed⟩
  | cons c cs ih =>
    obtain ⟨front, segments, rfl, clear, all⟩ := ih
    by_cases slash : c = '/'
    · subst slash
      exact ⟨[], front :: segments, (joinSegments_cons [] front segments).symm, List.not_mem_nil,
        List.forall_mem_cons.mpr ⟨clear, all⟩⟩
    · refine ⟨c :: front, segments, rfl, ?_, all⟩
      rw [List.mem_cons, not_or]
      exact ⟨Ne.symm slash, clear⟩

variable {front s : List Char} {segments others : List (List Char)} {f : Bool → List Char → List Char}

/-- A path has its segments in one way. -/
theorem joinSegments_inj {other : List Char} (clear : '/' ∉ front)
    (clear' : '/' ∉ other) (all : ∀ s ∈ segments, '/' ∉ s) (all' : ∀ s ∈ others, '/' ∉ s)
    (same : joinSegments front segments = joinSegments other others) : front = other ∧ segments = others := by
  have alone (f : List Char) : joinSegments f [] = f := List.append_nil f
  induction segments generalizing front other others with
  | nil =>
    cases others with
    | nil => exact ⟨by rwa [alone, alone] at same, rfl⟩
    | cons t rest =>
      rw [joinSegments_cons, alone] at same
      exact absurd (same ▸ List.mem_append_right other List.mem_cons_self) clear
  | cons s tail ih =>
    cases others with
    | nil =>
      rw [joinSegments_cons, alone] at same
      exact absurd (same ▸ List.mem_append_right front List.mem_cons_self) clear'
    | cons t rest =>
      rw [joinSegments_cons, joinSegments_cons] at same
      obtain ⟨rfl, later⟩ := append_cons_inj clear clear' same
      obtain ⟨rfl, rfl⟩ := ih (all s List.mem_cons_self) (all' t List.mem_cons_self)
        (fun u listed => all u (List.mem_cons_of_mem s listed)) (fun u listed => all' u (List.mem_cons_of_mem t listed))
        later
      exact ⟨rfl, rfl⟩

/-! ## The patterns within segments -/

section
variable {p : Char → Bool} {c : Char}

theorem takeWhile_cut (stops : p c = false) (cs rest : List Char) :
    (cs ++ c :: rest).takeWhile p = cs.takeWhile p := by
  induction cs with
  | nil => exact List.takeWhile_cons_of_neg (Bool.eq_false_iff.mp stops)
  | cons d ds ih => rw [List.cons_append, List.takeWhile_cons, List.takeWhile_cons, ih]

theorem dropWhile_cut (stops : p c = false) (cs rest : List Char) :
    (cs ++ c :: rest).dropWhile p = cs.dropWhile p ++ c :: rest := by
  induction cs with
  | nil => exact List.dropWhile_cons_of_neg (Bool.eq_false_iff.mp stops)
  | cons d ds ih =>
    rw [List.cons_append, List.dropWhile_cons, List.dropWhile_cons, ih]
    split <;> rfl

end

theorem length_takeWhile_add (p : Char → Bool) (cs : List Char) :
    (cs.takeWhile p).length + (cs.dropWhile p).length = cs.length := by
  rw [← List.length_append, List.takeWhile_append_dropWhile]

theorem reSub_braced (clear : '/' ∉ front) (rest : List Char) :
    reSub braced paramMark (front ++ '/' :: rest) =
      reSub braced paramMark front ++ '/' :: reSub braced paramMark rest := by
  refine reSub_cut paramMark (fun _ => rfl) ?_ ?_ clear rest
  · intro s rest nonempty clear
    cases s with
    | nil => exact absurd rfl nonempty
    | cons c cs =>
      have head : ((cs.dropWhile isInner ++ '/' :: rest).head? = some '\x7d') ↔ (cs.dropWhile isInner).head? = some '\x7d' := by
        cases cs.dropWhile isInner <;> simp
      simp only [List.cons_append, braced, takeWhile_cut (show isInner '/' = false from rfl),
        dropWhile_cut (show isInner '/' = false from rfl), head]
  · intro s
    cases s with
    | nil => exact Nat.zero_le _
    | cons c cs =>
      have total := length_takeWhile_add isInner cs
      simp only [braced, List.length_cons]
      split_ifs with here
      · have closing : 1 ≤ (cs.dropWhile isInner).length := by
          cases tail : cs.dropWhile isInner with
          | nil => simp [tail] at here
          | cons d ds => simp
        omega
      · omega

theorem reSub_coloned (clear : '/' ∉ front) (rest : List Char) :
    reSub coloned paramMark (front ++ '/' :: rest) =
      reSub coloned paramMark front ++ '/' :: reSub coloned paramMark rest := by
  refine reSub_cut paramMark (fun _ => rfl) ?_ ?_ clear rest
  · intro s rest nonempty clear
    cases s with
    | nil => exact absurd rfl nonempty
    | cons c cs =>
      simp only [List.cons_append, coloned, takeWhile_cut (show isNoSlash '/' = false from rfl)]
  · intro s
    cases s with
    | nil => exact Nat.zero_le _
    | cons c cs =>
      have total := length_takeWhile_add isNoSlash cs
      simp only [coloned, List.length_cons]
      split_ifs <;> omega

/-- A character of marked text is one of the text or of the mark. -/
theorem mem_markPlaceholders {c : Char} (inside : c ∈ markPlaceholders s) : c ∈ s ∨ c ∈ paramMark := by
  rcases mem_replaceAll paramMark (by decide) inside with inside | fresh
  · rcases mem_reSub paramMark inside with inside | fresh
    · exact mem_reSub paramMark inside
    · exact .inr fresh
  · exact .inr fresh

theorem markPlaceholders_cut (clear : '/' ∉ front) (rest : List Char) :
    markPlaceholders (front ++ '/' :: rest) = markPlaceholders front ++ '/' :: markPlaceholders rest := by
  have still : '/' ∉ reSub braced paramMark front := fun inside =>
    (mem_reSub paramMark inside).elim clear (by decide)
  rw [markPlaceholders, reSub_braced clear, reSub_coloned still, replaceAll_append_cons paramMark (by decide) (by decide)]
  rfl

/-- A change that slashes cut is a change of each segment. -/
theorem join_of_cut {g : List Char → List Char}
    (cut : ∀ front, '/' ∉ front → ∀ rest, g (front ++ '/' :: rest) = g front ++ '/' :: g rest) (clear : '/' ∉ front) (all : ∀ s ∈ segments, '/' ∉ s) :
    g (joinSegments front segments) = joinSegments (g front) (segments.map g) := by
  induction segments generalizing front with
  | nil => simp [joinSegments]
  | cons s rest ih =>
    have later := ih (all s List.mem_cons_self) fun t listed => all t (List.mem_cons_of_mem s listed)
    rw [joinSegments_cons, List.map_cons, joinSegments_cons, ← later, cut front clear]

/-! ## Closing segments -/

/-- A change of each segment, which is told whether the segment is the last. -/
def mapLast (f : Bool → List Char → List Char) : List (List Char) → List (List Char)
  | [] => []
  | s :: rest => f rest.isEmpty s :: mapLast f rest

theorem mapLast_isEmpty (f : Bool → List Char → List Char) (segments : List (List Char)) :
    (mapLast f segments).isEmpty = segments.isEmpty := by
  cases segments <;> rfl

theorem mapLast_mapLast (f g : Bool → List Char → List Char) (segments : List (List Char)) :
    mapLast g (mapLast f segments) = mapLast (fun last s => g last (f last s)) segments := by
  induction segments with
  | nil => rfl
  | cons s rest ih => rw [mapLast, mapLast, mapLast, ih, mapLast_isEmpty]

theorem mapLast_map (f : Bool → List Char → List Char) (g : List Char → List Char) (segments : List (List Char)) :
    mapLast f (segments.map g) = mapLast (fun last s => f last (g s)) segments := by
  induction segments with
  | nil => rfl
  | cons s rest ih => rw [List.map_cons, mapLast, mapLast, ih, List.isEmpty_map]

theorem mem_mapLast {t : List Char}
    (listed : t ∈ mapLast f segments) : ∃ last, ∃ s ∈ segments, t = f last s := by
  induction segments with
  | nil => cases listed
  | cons s rest ih =>
    rcases List.mem_cons.mp listed with rfl | later
    · exact ⟨_, s, List.mem_cons_self, rfl⟩
    · obtain ⟨last, u, inside, same⟩ := ih later
      exact ⟨last, u, List.mem_cons_of_mem s inside, same⟩

/-- Segments that are changed alike. -/
theorem mapLast_congr {g : Bool → List Char → List Char}
    (alike : List.Forall₂ (fun s t => ∀ last, f last s = g last t) segments others) :
    mapLast f segments = mapLast g others := by
  induction alike with
  | nil => rfl
  | @cons s t rest rest' here later ih =>
    have same : rest.isEmpty = rest'.isEmpty := by
      cases later <;> rfl
    rw [mapLast, mapLast, ih, here, same]

/-- What agrees after a change is changed alike. -/
theorem forall₂_of_mapLast {g : Bool → List Char → List Char}
    (same : mapLast f segments = mapLast g others) :
    List.Forall₂ (fun s t => ∃ last, f last s = g last t) segments others := by
  induction segments generalizing others with
  | nil =>
    cases others with
    | nil => exact .nil
    | cons t rest => cases same
  | cons s rest ih =>
    cases others with
    | nil => cases same
    | cons t rest' =>
      obtain ⟨here, later⟩ := List.cons.inj same
      have empty : rest.isEmpty = rest'.isEmpty := by
        have both := congrArg List.isEmpty later
        rwa [mapLast_isEmpty, mapLast_isEmpty] at both
      exact .cons ⟨rest'.isEmpty, empty ▸ here⟩ (ih later)

/-- A segment that is a run of so many characters of a class, with a line break at the end of the last one. -/
def closeRun (p : Char → Bool) (atLeast : ℕ) (last : Bool) (s : List Char) : List Char :=
  if atLeast ≤ (s.takeWhile p).length ∧ (s.dropWhile p = [] ∨ last = true ∧ s.dropWhile p = ['\n']) then
    paramMark ++ s.dropWhile p
  else s

theorem endsSegment_append {tail : List Char} {rest : List (List Char)} (clear : '/' ∉ tail) :
    endsSegment (tail ++ rest.flatMap ('/' :: ·)) = true ↔ tail = [] ∨ rest.isEmpty = true ∧ tail = ['\n'] := by
  cases tail with
  | nil =>
    cases rest <;> simp [endsSegment]
  | cons c cs =>
    have noSlash : c ≠ '/' := fun same => clear (same ▸ List.mem_cons_self)
    cases rest <;> cases cs <;> simp [endsSegment, noSlash]

/-- Inside a segment no match begins. -/
theorem reSub_slashRun_front (p : Char → Bool) (atLeast : ℕ) (clear : '/' ∉ front)
    (rest : List Char) : reSub (slashRun p atLeast) ('/' :: paramMark) (front ++ rest) =
      front ++ reSub (slashRun p atLeast) ('/' :: paramMark) rest := by
  refine reSub_absent _ fun u v same nonempty => ?_
  cases v with
  | nil => exact absurd rfl nonempty
  | cons c cs =>
    have noSlash : c ≠ '/' := by
      rintro rfl
      exact clear (same ▸ List.mem_append_right u List.mem_cons_self)
    simp [slashRun, noSlash]

theorem reSub_slashRun {p : Char → Bool} (slash : p '/' = false) (atLeast : ℕ)
    (all : ∀ s ∈ segments, '/' ∉ s) :
    reSub (slashRun p atLeast) ('/' :: paramMark) (segments.flatMap ('/' :: ·)) =
      (mapLast (closeRun p atLeast) segments).flatMap ('/' :: ·) := by
  induction segments with
  | nil => rfl
  | cons s rest ih =>
    have clear := all s List.mem_cons_self
    have ih := ih fun t listed => all t (List.mem_cons_of_mem s listed)
    have run : (s ++ rest.flatMap ('/' :: ·)).takeWhile p = s.takeWhile p ∧
        (s ++ rest.flatMap ('/' :: ·)).dropWhile p = s.dropWhile p ++ rest.flatMap ('/' :: ·) := by
      cases rest with
      | nil => simp
      | cons t more => exact ⟨takeWhile_cut slash _ _, dropWhile_cut slash _ _⟩
    have tailClear : '/' ∉ s.dropWhile p := fun inside => clear ((List.dropWhile_sublist p).subset inside)
    have ends : endsSegment (s.dropWhile p ++ rest.flatMap ('/' :: ·)) = true ↔ _ := endsSegment_append tailClear
    rw [List.flatMap_cons, mapLast, List.flatMap_cons, ← ih, closeRun]
    by_cases closes : atLeast ≤ (s.takeWhile p).length ∧ (s.dropWhile p = [] ∨ rest.isEmpty = true ∧ s.dropWhile p = ['\n'])
    · have found : slashRun p atLeast ('/' :: (s ++ rest.flatMap ('/' :: ·))) = (s.takeWhile p).length + 1 := by
        rw [slashRun, run.1, run.2, if_pos ⟨rfl, closes.1, ends.mpr closes.2⟩]
      have dropped : (s ++ rest.flatMap ('/' :: ·)).drop (s.takeWhile p).length =
          s.dropWhile p ++ rest.flatMap ('/' :: ·) := by
        have whole : s ++ rest.flatMap ('/' :: ·) = s.takeWhile p ++ (s.dropWhile p ++ rest.flatMap ('/' :: ·)) := by
          rw [← List.append_assoc, List.takeWhile_append_dropWhile]
        rw [whole, List.drop_left]
      rw [if_pos closes, List.cons_append, reSub_found _ found, dropped, reSub_slashRun_front p atLeast tailClear]
      simp
    · have other : slashRun p atLeast ('/' :: (s ++ rest.flatMap ('/' :: ·))) = 0 := by
        rw [slashRun, run.1, run.2, if_neg fun here => closes ⟨here.2.1, ends.mp here.2.2⟩]
      rw [if_neg closes, List.cons_append, reSub_other _ other, reSub_slashRun_front p atLeast clear]
      rfl

theorem closeRun_eq_or (p : Char → Bool) (atLeast : ℕ) (last : Bool) (s : List Char) :
    closeRun p atLeast last s = s ∨ closeRun p atLeast last s = paramMark ∨
      closeRun p atLeast last s = paramMark ++ ['\n'] := by
  unfold closeRun
  split_ifs with closes
  · rcases closes.2 with none_left | ⟨_, line⟩
    · exact .inr (.inl (by rw [none_left, List.append_nil]))
    · exact .inr (.inr (by rw [line]))
  · exact .inl rfl

theorem not_mem_closeRun {p : Char → Bool} {atLeast : ℕ} {last : Bool} (clear : '/' ∉ s) :
    '/' ∉ closeRun p atLeast last s := by
  rcases closeRun_eq_or p atLeast last s with same | same | same <;> rw [same]
  · exact clear
  · decide
  · decide

/-- The two closing substitutions on one segment. -/
def closeSegment (last : Bool) (s : List Char) : List Char :=
  closeRun d.isDecimal 1 last (closeRun isHexOrDash 8 last s)

/-- All substitutions on one segment behind a slash. -/
def normalizeSegment (last : Bool) (s : List Char) : List Char :=
  closeSegment d last (markPlaceholders s)

theorem not_mem_markPlaceholders (clear : '/' ∉ s) : '/' ∉ markPlaceholders s := fun inside =>
  (mem_markPlaceholders inside).elim clear (by decide)

theorem not_mem_normalizeSegment {d : Decimals} {last : Bool} (clear : '/' ∉ s) :
    '/' ∉ normalizeSegment d last s :=
  not_mem_closeRun (not_mem_closeRun (not_mem_markPlaceholders clear))

/-- **Segments.** A path is normalised segment by segment. -/
theorem normalizeChars_join (clear : '/' ∉ front)
    (all : ∀ s ∈ segments, '/' ∉ s) : normalizeChars d (joinSegments front segments) =
      joinSegments (markPlaceholders front) (mapLast (normalizeSegment d) segments) := by
  have slash : d.isDecimal '/' = false := (d.ascii '/' (by decide)).trans rfl
  have marked := not_mem_markPlaceholders clear
  have segmentsMarked : ∀ s ∈ segments.map markPlaceholders, '/' ∉ s := by
    intro s listed
    obtain ⟨t, inside, rfl⟩ := List.mem_map.mp listed
    exact not_mem_markPlaceholders (all t inside)
  have closed : ∀ s ∈ mapLast (closeRun isHexOrDash 8) (segments.map markPlaceholders), '/' ∉ s := by
    intro s listed
    obtain ⟨last, t, inside, rfl⟩ := mem_mapLast listed
    exact not_mem_closeRun (segmentsMarked t inside)
  rw [normalizeChars, join_of_cut (fun _ => markPlaceholders_cut) clear all, joinSegments, reSub_slashRun_front _ _ marked,
    reSub_slashRun (by decide) 8 segmentsMarked, reSub_slashRun_front _ _ marked, reSub_slashRun slash 1 closed,
    mapLast_mapLast, mapLast_map]
  rfl

end ApiManger.Signatures
