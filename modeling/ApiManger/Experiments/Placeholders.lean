import ApiManger.Experiments.MergedQuery

/-!
# Path parameters in a url

`render_request_url` replaces text, wherever it stands. One turn of its loop does what is meant
exactly when the two spellings of the name occur nowhere but at its placeholder; the loop as a
whole, when no name of the map is written elsewhere in the template or in another value.
-/

namespace ApiManger.Experiments
open Python Collection

/-! ## One turn -/

/-- `{key}` -/
def inBraces (key : List Char) : List Char := '\x7b' :: (key ++ ['\x7d'])

/-- `:key` -/
def afterColon (key : List Char) : List Char := ':' :: key

/-- A text that neither spelling of a key occurs in, unless the value is that spelling. -/
structure Untouched (key value text : List Char) : Prop where
  brace : inBraces key <:+: text → value = inBraces key
  colon : afterColon key <:+: text → value = afterColon key

theorem inBraces_length (key : List Char) : (inBraces key).length = key.length + 2 := by
  rw [inBraces, List.length_cons, List.length_append, List.length_singleton]

theorem afterColon_length (key : List Char) : (afterColon key).length = key.length + 1 := List.length_cons

theorem inBraces_ne_nil (key : List Char) : inBraces key ≠ [] := List.cons_ne_nil _ _

theorem afterColon_ne_nil (key : List Char) : afterColon key ≠ [] := List.cons_ne_nil _ _

theorem substitute_eq (url key value : List Char) :
    substitute url key value = replaceAll (afterColon key) value (replaceAll (inBraces key) value url) := rfl

/-- A text that one turn is to turn into another, with the condition under which it does. The occurrences that
are replaced beyond what is meant are counted; a value as long as a spelling is compared with it. -/
structure Piece (key value text meant : List Char) (condition : Prop) : Prop where
  enough : condition → substitute text key value = meant
  counted : ∃ braces colons,
    (substitute text key value).length + braces * (key.length + 2) + colons * (key.length + 1) =
        meant.length + (braces + colons) * value.length ∧
      (braces = 0 → colons = 0 → condition) ∧
      (colons = 0 → value.length = key.length + 2 → substitute text key value = meant → condition) ∧
      (braces = 0 → value.length = key.length + 1 → substitute text key value = meant → condition)

/-- Occurrences of both lengths that leave the length alone. -/
theorem balanced_cases {n m long value : ℕ} (balanced : n * (long + 2) + m * (long + 1) = (n + m) * value) :
    (n = 0 ∧ m = 0) ∨ (m = 0 ∧ value = long + 2) ∨ (n = 0 ∧ value = long + 1) := by
  rcases Nat.lt_or_ge value (long + 1) with short | longer
  · obtain ⟨d, rfl⟩ : ∃ d, long = value + d := ⟨long - value, by omega⟩
    simp only [Nat.mul_add, Nat.add_mul] at balanced
    left
    omega
  · obtain ⟨d, rfl⟩ : ∃ d, value = long + 1 + d := ⟨value - (long + 1), by omega⟩
    rcases d with _ | _ | d
    · simp only [Nat.mul_add, Nat.add_mul] at balanced
      omega
    · simp only [Nat.mul_add, Nat.add_mul] at balanced
      omega
    · simp only [Nat.mul_add, Nat.add_mul] at balanced
      left
      omega

variable {key value text : List Char} {part params whole : PathParameters} {s : Segment} {name : String}
  {e : String × Json}

/-- One turn does what is meant exactly under the condition. -/
theorem Piece.iff {meant : List Char} {condition : Prop} (piece : Piece key value text meant condition) :
    substitute text key value = meant ↔ condition := by
  refine ⟨fun same => ?_, piece.enough⟩
  obtain ⟨braces, colons, balanced, none, longer, shorter⟩ := piece.counted
  rw [same] at balanced
  rcases balanced_cases (show braces * (key.length + 2) + colons * (key.length + 1) = (braces + colons) * value.length by
    omega) with ⟨noBrace, noColon⟩ | ⟨noColon, long⟩ | ⟨noBrace, long⟩
  · exact none noBrace noColon
  · exact longer noColon long same
  · exact shorter noBrace long same

theorem Piece.congr {meant : List Char} {condition condition' : Prop}
    (piece : Piece key value text meant condition) (same : condition ↔ condition') :
    Piece key value text meant condition' := propext same ▸ piece

/-- A separator cuts a turn in two. -/
theorem substitute_append (plain : '/' ∉ key) (value front rest : List Char) :
    substitute (front ++ '/' :: rest) key value = substitute front key value ++ '/' :: substitute rest key value := by
  have inside : '/' ∉ inBraces key := by
    simp only [inBraces, List.mem_cons, List.mem_append, List.not_mem_nil, or_false, plain]
    decide
  have after : '/' ∉ afterColon key := by
    simp only [afterColon, List.mem_cons, plain]
    decide
  rw [substitute_eq, replaceAll_append_cons _ (inBraces_ne_nil key) inside,
    replaceAll_append_cons _ (afterColon_ne_nil key) after]
  rfl

/-- Pieces on both sides of a separator are one piece. -/
theorem Piece.append {meant text' meant' : List Char} {condition condition' : Prop} (plain : '/' ∉ key)
    (front : Piece key value text meant condition) (rest : Piece key value text' meant' condition') :
    Piece key value (text ++ '/' :: text') (meant ++ '/' :: meant') (condition ∧ condition') := by
  have cut := substitute_append plain value text text'
  refine ⟨fun both => by rw [cut, front.enough both.1, rest.enough both.2], ?_⟩
  obtain ⟨n, m, balanced, none, longer, shorter⟩ := front.counted
  obtain ⟨n', m', balanced', none', longer', shorter'⟩ := rest.counted
  rw [cut]
  refine ⟨n + n', m + m', ?_, fun noBrace noColon => ?_, fun noColon long same => ?_, fun noBrace long same => ?_⟩
  · simp only [List.length_append, List.length_cons, Nat.add_mul] at balanced balanced' ⊢
    omega
  · exact ⟨none (by omega) (by omega), none' (by omega) (by omega)⟩
  · have even : (substitute text key value).length = meant.length := by
      obtain rfl : m = 0 := by omega
      simp only [long, Nat.add_zero, Nat.zero_mul] at balanced
      omega
    obtain ⟨left, right⟩ := List.append_inj same even
    exact ⟨longer (by omega) long left, longer' (by omega) long (List.cons.inj right).2⟩
  · have even : (substitute text key value).length = meant.length := by
      obtain rfl : n = 0 := by omega
      simp only [long, Nat.zero_add, Nat.zero_mul, Nat.add_zero] at balanced
      omega
    obtain ⟨left, right⟩ := List.append_inj same even
    exact ⟨shorter (by omega) long left, shorter' (by omega) long (List.cons.inj right).2⟩

theorem Piece.joined {key value : List Char} (plain : '/' ∉ key) {front front' : List Char} {condition : Prop}
    (first : Piece key value front front' condition) {σ : Type} {text meant : σ → List Char} {conditions : σ → Prop}
    (segments : List σ) (each : ∀ s ∈ segments, Piece key value (text s) (meant s) (conditions s)) :
    Piece key value (joined front (segments.map text)) (joined front' (segments.map meant))
      (condition ∧ ∀ s ∈ segments, conditions s) := by
  induction segments generalizing front front' condition with
  | nil =>
    have whole := first
    simp only [Experiments.joined, List.map_nil, List.flatMap_nil, List.append_nil, List.not_mem_nil, false_implies,
      implies_true, and_true]
    exact whole
  | cons s segments ih =>
    have rest := ih (each s (.head _)) fun other mem => each other (.tail _ mem)
    have whole := first.append plain rest
    rw [List.forall_mem_cons]
    exact whole

/-- A text that is to stay. -/
theorem piece_kept (key value text : List Char) : Piece key value text text (Untouched key value text) := by
  have spared : ∀ {old rest : List Char}, old ≠ [] → (old <:+: rest → value = old) → replaceAll old value rest = rest := by
    intro old rest nonempty harmless
    by_cases inside : old <:+: rest
    · rw [harmless inside, replaceAll_same nonempty]
    · exact replaceAll_absent value inside
  have first := replaceAll_length value (inBraces_ne_nil key) text
  have second := replaceAll_length value (afterColon_ne_nil key) (replaceAll (inBraces key) value text)
  rw [inBraces_length] at first
  rw [afterColon_length, ← substitute_eq] at second
  refine ⟨fun untouched => ?_, occurrences (inBraces key) text,
    occurrences (afterColon key) (replaceAll (inBraces key) value text), ?_, fun noBrace noColon => ?_,
    fun noColon long same => ?_, fun noBrace long same => ?_⟩
  · rw [substitute_eq, spared (inBraces_ne_nil key) untouched.brace, spared (afterColon_ne_nil key) untouched.colon]
  · rw [Nat.add_mul]
    omega
  · have absent := (occurrences_eq_zero_iff (inBraces_ne_nil key)).mp noBrace
    rw [replaceAll_absent value absent] at noColon
    have absent' := (occurrences_eq_zero_iff (afterColon_ne_nil key)).mp noColon
    exact ⟨fun inside => (absent inside).elim, fun inside => (absent' inside).elim⟩
  · have absent := (occurrences_eq_zero_iff (afterColon_ne_nil key)).mp noColon
    have kept : replaceAll (inBraces key) value text = text := by
      rw [substitute_eq, replaceAll_absent value absent] at same
      exact same
    rw [kept] at absent
    refine ⟨fun inside => ?_, fun inside => (absent inside).elim⟩
    exact eq_of_replaceAll_eq value (inBraces_ne_nil key) (by rw [inBraces_length, long]) kept inside
  · have absent := (occurrences_eq_zero_iff (inBraces_ne_nil key)).mp noBrace
    rw [substitute_eq, replaceAll_absent value absent] at same
    refine ⟨fun inside => (absent inside).elim, fun inside => ?_⟩
    exact eq_of_replaceAll_eq value (afterColon_ne_nil key) (by rw [afterColon_length, long]) same inside

theorem replaceAll_self {old : List Char} (nonempty : old ≠ []) (new : List Char) : replaceAll old new old = new := by
  have found := replaceAll_found new nonempty []
  rw [List.append_nil] at found
  rw [found]
  exact List.append_nil new

/-- The placeholder in braces: its value is scanned for the other spelling. -/
theorem piece_brace (key value : List Char) :
    Piece key value (inBraces key) value (afterColon key <:+: value → value = afterColon key) := by
  have once : substitute (inBraces key) key value = replaceAll (afterColon key) value value := by
    rw [substitute_eq, replaceAll_self (inBraces_ne_nil key)]
  have long := replaceAll_length value (afterColon_ne_nil key) value
  rw [afterColon_length] at long
  refine ⟨fun harmless => ?_, 0, occurrences (afterColon key) value, ?_, fun _ noColon inside => ?_,
    fun noColon _ _ inside => ?_, fun _ long same inside => ?_⟩
  · rw [once]
    by_cases inside : afterColon key <:+: value
    · have spelled := harmless inside
      rw [← spelled]
      exact replaceAll_same (spelled ▸ afterColon_ne_nil key) value
    · exact replaceAll_absent value inside
  · rw [once, Nat.zero_mul, Nat.add_zero, Nat.zero_add]
    exact long
  · exact ((occurrences_eq_zero_iff (afterColon_ne_nil key)).mp noColon inside).elim
  · exact ((occurrences_eq_zero_iff (afterColon_ne_nil key)).mp noColon inside).elim
  · rw [once] at same
    exact eq_of_replaceAll_eq value (afterColon_ne_nil key) (by rw [afterColon_length, long]) same inside

/-- The placeholder after a colon: its value is not scanned again. -/
theorem piece_colon (value : List Char) (plain : '\x7b' ∉ key) :
    Piece key value (afterColon key) value True := by
  have absent : ¬ inBraces key <:+: afterColon key := by
    intro inside
    rcases List.mem_cons.mp (inside.subset (.head _)) with same | mem
    · cases same
    · exact plain mem
  have once : substitute (afterColon key) key value = value := by
    rw [substitute_eq, replaceAll_absent value absent, replaceAll_self (afterColon_ne_nil key)]
  refine ⟨fun _ => once, 0, 0, ?_, fun _ _ => trivial, fun _ _ _ => trivial, fun _ _ _ => trivial⟩
  rw [once, Nat.zero_mul, Nat.zero_mul, Nat.zero_mul]

/-! ## One more parameter -/

/-- What has to hold of a segment when a parameter is put in. -/
def SegmentSpares (part : PathParameters) (key : String) (value : List Char) (s : Segment) : Prop :=
  if s.name? = some key then s = .brace key → afterColon key.toList <:+: value → value = afterColon key.toList
  else Untouched key.toList value (s.filled part)

theorem segmentSpares_named {key : String}
    (named : s.name? = some key) : SegmentSpares part key value s ↔
      (s = .brace key → afterColon key.toList <:+: value → value = afterColon key.toList) := by
  rw [SegmentSpares, if_pos named]

theorem segmentSpares_other {key : String}
    (other : s.name? ≠ some key) : SegmentSpares part key value s ↔ Untouched key.toList value (s.filled part) := by
  rw [SegmentSpares, if_neg other]

variable (t : UrlTemplate)

/-- What has to hold of the template when a parameter is put in. -/
def Spares (part : PathParameters) (key : String) (value : List Char) : Prop :=
  Untouched key.toList value t.front ∧ ∀ s ∈ t.segments, SegmentSpares part key value s

theorem PathParameters.get?_mem {value : Json}
    (found : params.get? name = some value) : (name, value) ∈ params.items := by
  obtain ⟨e, stands, rfl⟩ := Option.map_eq_some_iff.mp found
  cases lookup_key stands
  exact lookup_mem stands

theorem PathParameters.get?_of_mem (mem : e ∈ params.items) :
    params.get? e.1 = some e.2 := by
  rw [PathParameters.get?, params.distinct.lookup_of_mem mem]
  rfl

theorem PathParameters.get?_none (absent : ∀ e ∈ params.items, e.1 ≠ name) :
    params.get? name = none := by
  rw [PathParameters.get?, lookup_eq_none.mpr absent]
  rfl

/-- More parameters, one of them last. -/
structure PathParameters.Extends (whole part : PathParameters) (e : String × Json) : Prop where
  items : whole.items = part.items ++ [e]

theorem PathParameters.Extends.fresh (more : whole.Extends part e) :
    ∀ f ∈ part.items, f.1 ≠ e.1 := by
  intro f mem same
  have distinct := whole.distinct
  rw [more.items, Distinct, List.map_append, List.nodup_append] at distinct
  exact distinct.2.2 f.1 (List.mem_map_of_mem mem) e.1 (.head _) same

theorem PathParameters.Extends.get?_self (more : whole.Extends part e) :
    whole.get? e.1 = some e.2 :=
  PathParameters.get?_of_mem (by rw [more.items]; exact List.mem_append_right _ (.head _))

theorem PathParameters.Extends.get?_other (more : whole.Extends part e) (other : name ≠ e.1) : whole.get? name = part.get? name := by
  unfold PathParameters.get?
  rw [more.items, lookup_append, if_neg fun same => other same.symm, Option.or_none]

/-- A segment, and what it becomes when one more parameter is put in. -/
theorem piece_segment {t : UrlTemplate} (more : whole.Extends part e) (mem : s ∈ t.segments) :
    Piece e.1.toList e.2.pyStr.toList (s.filled part) (s.filled whole) (SegmentSpares part e.1 e.2.pyStr.toList s) := by
  have valid := t.valid s mem
  unfold SegmentSpares
  split
  · next named =>
    have before : s.filled part = s.text := by
      rw [Segment.filled, named, Option.bind_some, PathParameters.get?_none more.fresh]
    have after : s.filled whole = e.2.pyStr.toList := by
      rw [Segment.filled, named, Option.bind_some, more.get?_self]
    rw [before, after]
    cases s with
    | literal text => cases named
    | brace name =>
      obtain rfl : name = e.1 := Option.some.inj named
      exact (piece_brace e.1.toList e.2.pyStr.toList).congr ⟨fun harmless _ => harmless, fun spared => spared rfl⟩
    | colon name =>
      obtain rfl : name = e.1 := Option.some.inj named
      have plain : '\x7b' ∉ e.1.toList := valid.named _ named _ (.head _)
      exact (piece_colon _ plain).congr ⟨fun _ => nofun, fun _ => trivial⟩
  · next other =>
    have same : s.filled whole = s.filled part := by
      unfold Segment.filled
      cases named : s.name? with
      | none => rfl
      | some name =>
        rw [Option.bind_some, Option.bind_some, more.get?_other fun same => other (by rw [named, same])]
    rw [same]
    exact piece_kept _ _ _

/-- **One turn.** Putting in one more parameter fills its placeholder, and nothing else, exactly when the rest of
the template is spared. -/
theorem substitute_filled_iff
    (more : whole.Extends part e) :
    substitute (t.filled part) e.1.toList e.2.pyStr.toList = t.filled whole ↔ Spares t part e.1 e.2.pyStr.toList := by
  have plain : '/' ∉ e.1.toList := whole.plain e (by rw [more.items]; exact List.mem_append_right _ (.head _))
  exact (Piece.joined plain (piece_kept _ _ t.front) t.segments fun s mem => piece_segment more mem).iff

/-! ## Any part of the parameters -/

/-- No name of the map is written, in either spelling, where it is not meant: in scheme, host and port, in a literal
segment, in front of another name after a colon, in the value of another placeholder, or after a colon in the value
of its own placeholder in braces. A value that is that spelling does no harm. -/
structure Untangled (t : UrlTemplate) (params : PathParameters) : Prop where
  front : ∀ e ∈ params.items, Untouched e.1.toList e.2.pyStr.toList t.front
  literals : ∀ e ∈ params.items, ∀ text, .literal text ∈ t.segments → Untouched e.1.toList e.2.pyStr.toList text
  prefixes : ∀ e ∈ params.items, ∀ name, .colon name ∈ t.segments → name ≠ e.1 → e.1.toList <+: name.toList →
    e.2.pyStr.toList = afterColon e.1.toList
  values : ∀ e ∈ params.items, ∀ f ∈ params.items, f.1 ≠ e.1 → (∃ s ∈ t.segments, s.name? = some f.1) →
    Untouched e.1.toList e.2.pyStr.toList f.2.pyStr.toList
  own : ∀ e ∈ params.items, .brace e.1 ∈ t.segments → afterColon e.1.toList <:+: e.2.pyStr.toList →
    e.2.pyStr.toList = afterColon e.1.toList

theorem infix_cons_of_not_mem {c : Char} (absent : c ∉ text) (inside : c :: key <:+: c :: text) :
    key <+: text := by
  rcases List.infix_cons_iff.mp inside with starts | inside
  · exact (List.cons_prefix_cons.mp starts).2
  · exact (absent (inside.subset (.head _))).elim

/-- A placeholder that is not filled yet is spared, but for the beginning of a name after a colon. -/
theorem untouched_text (valid : s.Valid) (named : s.name? = some name) {key : String}
    (other : name ≠ key) :
    Untouched key.toList value s.text ↔
      (s = .colon name → key.toList <+: name.toList → value = afterColon key.toList) := by
  have opens : '\x7b' ∉ name.toList := valid.named name named _ (.head _)
  have closes : '\x7d' ∉ name.toList := valid.named name named _ (.tail _ (.head _))
  have colon : ':' ∉ name.toList := valid.named name named _ (.tail _ (.tail _ (.head _)))
  cases s with
  | literal text => cases named
  | brace name' =>
    obtain rfl : name' = name := Option.some.inj named
    refine ⟨fun _ => nofun, fun _ => ⟨fun inside => ?_, fun inside => ?_⟩⟩
    · have clear : '\x7b' ∉ name'.toList ++ ['\x7d'] := by
        simp only [List.mem_append, List.mem_singleton, opens, false_or]
        decide
      obtain ⟨tail, whole⟩ := infix_cons_of_not_mem clear inside
      rcases List.eq_nil_or_concat tail with rfl | ⟨front, c, rfl⟩
      · rw [List.append_nil] at whole
        exact (other (String.toList_inj.mp (List.append_cancel_right whole)).symm).elim
      · rw [List.concat_eq_append, ← List.append_assoc] at whole
        have inner := (List.append_inj' whole rfl).1
        exact (closes (inner ▸ List.mem_append_left _ (List.mem_append_right _ (.head _)))).elim
    · have mem : ':' ∈ '\x7b' :: (name'.toList ++ ['\x7d']) := inside.subset (.head _)
      simp only [List.mem_cons, List.mem_append, List.not_mem_nil, or_false, colon, false_or] at mem
      exact absurd mem (by decide)
  | colon name' =>
    obtain rfl : name' = name := Option.some.inj named
    refine ⟨fun untouched _ starts => ?_, fun spared => ⟨fun inside => ?_, fun inside => ?_⟩⟩
    · exact untouched.colon (List.cons_prefix_cons.mpr ⟨rfl, starts⟩).isInfix
    · rcases List.mem_cons.mp (inside.subset (.head _)) with same | mem
      · cases same
      · exact (opens mem).elim
    · exact spared rfl (infix_cons_of_not_mem colon inside)

/-- Some of the parameters, in any order. -/
def PathParameters.PartOf (part params : PathParameters) : Prop := part.items ⊆ params.items

/-- Every parameter put in after any others spares the rest exactly when nothing is tangled. -/
theorem spares_iff_untangled (params : PathParameters) :
    (∀ part : PathParameters, part.PartOf params → ∀ e ∈ params.items, (∀ f ∈ part.items, f.1 ≠ e.1) →
      Spares t part e.1 e.2.pyStr.toList) ↔ Untangled t params := by
  constructor
  · intro spares
    let nothing : PathParameters := ⟨[], List.nodup_nil, nofun⟩
    have first : ∀ e ∈ params.items, Spares t nothing e.1 e.2.pyStr.toList :=
      fun e mem => spares nothing (List.nil_subset _) e mem nofun
    have unfilled : ∀ s : Segment, s.filled nothing = s.text := by
      intro s
      unfold Segment.filled
      cases s.name? <;> rfl
    refine ⟨fun e mem => (first e mem).1, fun e mem text literal => ?_, fun e mem name colon other starts => ?_,
      fun e mem f given other ⟨s, inside, named⟩ => ?_, fun e mem brace harm => ?_⟩
    · have unnamed : Segment.name? (.literal text) ≠ some e.1 := nofun
      have spared := (segmentSpares_other unnamed).mp ((first e mem).2 _ literal)
      rw [unfilled] at spared
      exact spared
    · have different : Segment.name? (.colon name) ≠ some e.1 := fun same => other (Option.some.inj same)
      have spared := (segmentSpares_other different).mp ((first e mem).2 _ colon)
      rw [unfilled] at spared
      exact (untouched_text (t.valid _ colon) rfl other).mp spared rfl starts
    · let one : PathParameters := ⟨[f], List.nodup_singleton _, fun g mem => by
        cases List.mem_singleton.mp mem
        exact params.plain f given⟩
      have spared := (spares one (fun g mem => by cases List.mem_singleton.mp mem; exact given) e mem fun g mem => by
        cases List.mem_singleton.mp mem; exact other).2 s inside
      have found : one.get? f.1 = some f.2 := PathParameters.get?_of_mem (List.mem_singleton.mpr rfl)
      have filled : s.filled one = f.2.pyStr.toList := by rw [Segment.filled, named, Option.bind_some, found]
      have untouched := (segmentSpares_other fun same => other (Option.some.inj (named.symm.trans same))).mp spared
      rw [filled] at untouched
      exact untouched
    · exact (segmentSpares_named rfl).mp ((first e mem).2 _ brace) rfl harm
  · intro clear part within e mem fresh
    refine ⟨clear.front e mem, fun s inside => ?_⟩
    by_cases named : s.name? = some e.1
    · refine (segmentSpares_named named).mpr ?_
      rintro rfl
      exact clear.own e mem inside
    · refine (segmentSpares_other named).mpr ?_
      cases placeholder : s.name? with
      | none =>
        cases s with
        | literal text => exact clear.literals e mem text inside
        | brace name => cases placeholder
        | colon name => cases placeholder
      | some name =>
        have other : name ≠ e.1 := fun same => named (by rw [placeholder, same])
        unfold Segment.filled
        rw [placeholder, Option.bind_some]
        cases given : part.get? name with
        | some value => exact clear.values e mem _ (within (PathParameters.get?_mem given)) other ⟨s, inside, placeholder⟩
        | none =>
          refine (untouched_text (t.valid s inside) placeholder other).mpr ?_
          rintro rfl starts
          exact clear.prefixes e mem name inside other starts

/-! ## The loop -/

theorem substituteAll_append (url : List Char) (items : Dict) (e : String × Json) :
    substituteAll url (items ++ [e]) = substitute (substituteAll url items) e.1.toList e.2.pyStr.toList :=
  List.foldl_concat _ _ _ _

/-- Without a tangle the loop fills the template, whatever part of the parameters it is given in whatever order. -/
theorem Untangled.substituteAll {t : UrlTemplate} {params : PathParameters} (clear : Untangled t params)
    {part : PathParameters} (within : part.PartOf params) : substituteAll t.text part.items = t.filled part := by
  obtain ⟨items, distinct, plain⟩ := part
  induction items using List.reverseRecOn with
  | nil =>
    have unfilled : Segment.filled ⟨[], distinct, plain⟩ = Segment.text := by
      funext s
      unfold Segment.filled
      cases s.name? <;> rfl
    rw [UrlTemplate.filled, unfilled]
    rfl
  | append_singleton items e ih =>
    have less : Distinct Prod.fst items := by
      rw [Distinct, List.map_append] at distinct
      exact (List.nodup_append.mp distinct).1
    let init : PathParameters := ⟨items, less, fun f mem => plain f (List.mem_append_left _ mem)⟩
    let whole : PathParameters := ⟨items ++ [e], distinct, plain⟩
    have more : whole.Extends init e := ⟨rfl⟩
    have inner : init.PartOf params := fun f mem => within (List.mem_append_left _ mem)
    have spared := (spares_iff_untangled t params).mpr clear init inner e (within (List.mem_append_right _ (.head _)))
      more.fresh
    dsimp only
    rw [substituteAll_append, ih less init.plain inner]
    exact (substitute_filled_iff t more).mpr spared

theorem UrlTemplate.absolute (part : PathParameters) :
    t.filled part = absoluteUrl t.scheme t.netloc ((t.segments.map (Segment.filled part)).flatMap ('/' :: ·)) := by
  rw [UrlTemplate.filled, joined, UrlTemplate.front, absoluteUrl, List.append_assoc]
  rfl

/-- A filled template keeps its parts when a query is merged. -/
theorem UrlTemplate.merge_keeps (part : PathParameters) {refusesNetloc : String → Bool} {query : Dict}
    {url : List Char} (done : mergeUrlQuery refusesNetloc (t.filled part) query = .ok url) :
    urlsplit (Recipe.cleanedUrl url) = urlsplit (Recipe.cleanedUrl (t.filled part)) := by
  obtain ⟨hosted, plain⟩ := t.isNetloc
  have slash : ∀ c, ((t.segments.map (Segment.filled part)).flatMap ('/' :: ·)).head? = some c → c = '/' := by
    intro c first
    cases whole : t.segments with
    | nil => rw [whole] at first; cases first
    | cons s segments =>
      rw [whole] at first
      exact (Option.some.inj first).symm
  have clean : ∀ c ∈ t.netloc, isKept c = true := by
    intro c mem
    simp only [isKept, Bool.and_eq_true, bne_iff_ne]
    refine ⟨⟨?_, ?_⟩, ?_⟩ <;> rintro rfl <;> exact plain _ (by decide) mem
  have bare : ∀ c ∈ ['/', '?', '#'], c ∉ t.netloc := fun c marked =>
    plain c (List.mem_append_left ['\t', '\r', '\n'] marked)
  rw [t.absolute part] at done ⊢
  exact mergeUrlQuery_keeps ⟨t.isScheme.1, t.isScheme.2, bare, fun c first => .inl (slash c first)⟩ hosted clean slash done

/-- The order of the parameters does not matter to what is filled. -/
theorem filled_perm {a b : PathParameters} (same : a.items.Perm b.items) : t.filled a = t.filled b := by
  have answers : a.get? = b.get? := by
    funext name
    cases given : a.get? name with
    | some value => exact (PathParameters.get?_of_mem (same.subset (PathParameters.get?_mem given))).symm
    | none =>
      cases given' : b.get? name with
      | none => rfl
      | some value =>
        have found := PathParameters.get?_of_mem (same.symm.subset (PathParameters.get?_mem given'))
        rw [given] at found
        cases found
  have segments : Segment.filled a = Segment.filled b := by
    funext s
    unfold Segment.filled
    rw [answers]
  rw [UrlTemplate.filled, UrlTemplate.filled, segments]

/-- What is to hold of a template and a map of path parameters. Whatever part of the map is given, in whatever order:
every placeholder that is named gets its value and nothing else is changed before the query is merged; the order does
not matter; and merging keeps scheme, host and port, and path. -/
structure RendersExactly (t : UrlTemplate) (params : PathParameters) : Prop where
  rendered : ∀ part : PathParameters, part.PartOf params → ∀ refusesNetloc query,
    renderRequestUrl refusesNetloc t.text part.items query = mergeUrlQuery refusesNetloc (t.filled part) query
  ordered : ∀ a b : PathParameters, a.PartOf params → a.items.Perm b.items → ∀ refusesNetloc query,
    renderRequestUrl refusesNetloc t.text a.items query = renderRequestUrl refusesNetloc t.text b.items query
  kept : ∀ part : PathParameters, part.PartOf params → ∀ refusesNetloc query url,
    renderRequestUrl refusesNetloc t.text part.items query = .ok url →
    urlsplit (Recipe.cleanedUrl url) = urlsplit (Recipe.cleanedUrl (t.filled part))

/-- **Path parameters.** A template is rendered exactly when nothing is tangled. -/
theorem rendersExactly_iff (t : UrlTemplate) (params : PathParameters) : RendersExactly t params ↔ Untangled t params := by
  constructor
  · intro renders
    refine (spares_iff_untangled t params).mp fun part within e mem fresh => ?_
    have looped : ∀ part : PathParameters, part.PartOf params → substituteAll t.text part.items = t.filled part :=
      fun part within => Except.ok.inj (renders.rendered part within (fun _ => false) [])
    have plain : ∀ f ∈ part.items ++ [e], '/' ∉ f.1.toList := by
      intro f inside
      rcases List.mem_append.mp inside with inside | last
      · exact part.plain f inside
      · rw [List.mem_singleton.mp last]
        exact params.plain e mem
    let whole : PathParameters := ⟨part.items ++ [e], part.distinct.append fresh, plain⟩
    have more : whole.Extends part e := ⟨rfl⟩
    have inner : whole.PartOf params := by
      intro f inside
      rcases List.mem_append.mp inside with inside | last
      · exact within inside
      · exact List.mem_singleton.mp last ▸ mem
    have step := looped whole inner
    rw [substituteAll_append, looped part within] at step
    exact (substitute_filled_iff t more).mp step
  · intro clear
    have rendered : ∀ part : PathParameters, part.PartOf params → ∀ refusesNetloc query,
        renderRequestUrl refusesNetloc t.text part.items query = mergeUrlQuery refusesNetloc (t.filled part) query := by
      intro part within refusesNetloc query
      rw [renderRequestUrl, clear.substituteAll within]
    refine ⟨rendered, fun a b within same refusesNetloc query => ?_, fun part within refusesNetloc query url done => ?_⟩
    · rw [rendered a within, rendered b fun f mem => within (same.symm.subset mem), filled_perm t same]
    · rw [rendered part within] at done
      exact t.merge_keeps part done

/-- Two placeholders, the name of one the beginning of the other. -/
def ordersUrl : UrlTemplate where
  scheme := "https".toList
  netloc := "shop.test:8080".toList
  segments := [.literal "users".toList, .colon "id", .literal "orders".toList, .colon "id2"]
  isScheme := ⟨rfl, List.all_eq_true.mp (by decide)⟩
  isNetloc := ⟨by decide, by simp⟩
  valid := by
    intro s mem
    simp only [List.mem_cons, List.not_mem_nil, or_false] at mem
    rcases mem with rfl | rfl | rfl | rfl
    · exact ⟨by simp [Segment.text], nofun⟩
    · exact ⟨by simp [Segment.text], fun name named => by cases named; simp⟩
    · exact ⟨by simp [Segment.text], nofun⟩
    · exact ⟨by simp [Segment.text], fun name named => by cases named; simp⟩
  distinct := by decide

def ordersParams : PathParameters where
  items := [("id", .str "7"), ("id2", .str "9")]
  distinct := by decide
  plain := by decide

/-- The value of `id` is put in front of the `2` of `:id2`. -/
theorem prefix_name_replaced :
    renderRequestUrl (fun _ => false) ordersUrl.text ordersParams.items [] =
        .ok "https://shop.test:8080/users/7/orders/72".toList ∧
      ¬ RendersExactly ordersUrl ordersParams := by
  have looped : substituteAll ordersUrl.text ordersParams.items = "https://shop.test:8080/users/7/orders/72".toList := by
    decide +kernel
  have meant : ordersUrl.filled ordersParams = "https://shop.test:8080/users/7/orders/9".toList := by decide +kernel
  refine ⟨congrArg Except.ok looped, fun renders => ?_⟩
  have same : substituteAll ordersUrl.text ordersParams.items = ordersUrl.filled ordersParams :=
    Except.ok.inj (renders.rendered ordersParams (List.Subset.refl _) (fun _ => false) [])
  rw [looped, meant] at same
  exact absurd same (by decide)

end ApiManger.Experiments
