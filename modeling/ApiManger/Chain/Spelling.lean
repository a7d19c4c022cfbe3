import ApiManger.Chain.Names
import ApiManger.Chain.Template

/-!
# How a path is spelled

`parse_upstream_ref` states in its docstring that `list[0].id` and `list.0.id` are both
accepted. `Spells` is the grammar its loop reads: fields after dots, indices in brackets. The
dotted index is not in it, since what follows a dot has to begin like a name.
-/

namespace ApiManger.Chain
open Python

/-! ## The grammar of the loop -/

/-- A text that spells a path. -/
inductive Spells : List Char → List RefSegment → Prop
  | done : Spells [] []
  | field {name rest : List Char} {path : List RefSegment} :
      IsName name → Spells rest path → Spells ('.' :: (name ++ rest)) (.field (String.ofList name) :: path)
  | index {digits rest : List Char} {path : List RefSegment} :
      digits ≠ [] → (∀ c ∈ digits, c.isDigit = true) → Spells rest path →
      Spells ('[' :: (digits ++ ']' :: rest)) (.index (Nat.ofDigitChars 10 digits 0) :: path)

variable {rest : List Char} {path : List RefSegment} {segment : RefSegment} {text : String}

theorem Spells.ends (spells : Spells rest path) : EndsName rest := by
  intro c first
  cases spells with
  | done => cases first
  | field => cases first; rfl
  | index => cases first; rfl

theorem IsName.no_newline {name : List Char} (isName : IsName name) : '\n' ∉ name := by
  intro mem
  cases isName.rest _ mem

theorem Spells.no_newline (spells : Spells rest path) : '\n' ∉ rest := by
  induction spells with
  | done => exact List.not_mem_nil
  | field isName _ ih =>
    intro mem
    rcases List.mem_cons.mp mem with same | mem
    · cases same
    · exact (List.mem_append.mp mem).elim isName.no_newline ih
  | index _ all _ ih =>
    intro mem
    rcases List.mem_cons.mp mem with same | mem
    · cases same
    · rcases List.mem_append.mp mem with mem | mem
      · cases all _ mem
      · rcases List.mem_cons.mp mem with same | mem
        · cases same
        · exact ih mem

/-! ## One segment -/

/-- A field is read where a name stands that nothing goes on. -/
theorem readField_iff {after : List Char} :
    readField after = some (segment, rest) ↔
      ∃ name, after = name ++ rest ∧ IsName name ∧ EndsName rest ∧ segment = .field (String.ofList name) := by
  unfold readField
  rw [Option.map_eq_some_iff]
  constructor
  · rintro ⟨⟨name, left⟩, taken, same⟩
    obtain ⟨rfl, rfl⟩ := Prod.mk.inj same
    obtain ⟨split, isName, ends⟩ := takeName_some taken
    exact ⟨name, split, isName, ends, rfl⟩
  · rintro ⟨name, rfl, isName, ends, rfl⟩
    exact ⟨(name, rest), takeName_append isName ends, rfl⟩

/-- An index is read where digits stand in brackets. -/
theorem readIndex_iff {text : List Char} :
    readIndex text = some (segment, rest) ↔
      ∃ digits, text = '[' :: (digits ++ ']' :: rest) ∧ digits ≠ [] ∧ (∀ c ∈ digits, c.isDigit = true) ∧
        segment = .index (Nat.ofDigitChars 10 digits 0) := by
  have closes : ∀ c, (']' :: rest).head? = some c → c.isDigit = false := by
    intro c first
    cases first
    rfl
  unfold readIndex
  simp only [Option.bind_eq_bind, Option.bind_eq_some_iff]
  constructor
  · rintro ⟨inside, opens, n, number, left, closed, last⟩
    have all : ∀ c ∈ inside.takeWhile Char.isDigit, c.isDigit = true := fun _ mem => List.mem_takeWhile_imp mem
    rw [readDigits_digits all] at number
    cases Option.some.inj number
    split at last
    · cases last
    · next nonempty =>
      obtain ⟨rfl, rfl⟩ := Prod.mk.inj (Option.some.inj last)
      refine ⟨inside.takeWhile Char.isDigit, ?_, fun none => nonempty (List.isEmpty_iff.mpr none), all, rfl⟩
      have tail : inside.drop (inside.takeWhile Char.isDigit).length = ']' :: left := afterText_some closed
      have whole : inside = inside.takeWhile Char.isDigit ++ ']' :: left := by
        rw [← tail]
        exact (List.prefix_iff_eq_append.mp (List.takeWhile_prefix Char.isDigit)).symm
      rw [afterText_some opens, ← whole]
      rfl
  · rintro ⟨digits, rfl, nonempty, all, rfl⟩
    have taken : (digits ++ ']' :: rest).takeWhile Char.isDigit = digits := takeWhile_append_stop all closes
    refine ⟨digits ++ ']' :: rest, afterText_append ['['] _, Nat.ofDigitChars 10 digits 0, ?_, rest, ?_, ?_⟩
    · rw [taken, readDigits_digits all]
    · rw [taken, List.drop_left]
      exact afterText_append [']'] rest
    · rw [taken, if_neg fun none => nonempty (List.isEmpty_iff.mp none)]
      rfl

/-! ## The loop -/

/-- What the loop reads after the field of a turn. -/
def readAfterField (text : String) (fuel : ℕ) (front : List RefSegment) (rest : List Char) :
    Except ChainError (List RefSegment) :=
  match rest with
  | '[' :: _ => match readIndex rest with
    | some (index, rest) => do return front ++ index :: (← readSegments text fuel rest)
    | none => .error (.definition ("invalid upstream ref index: " ++ text))
  | [] => return front
  | '.' :: _ => do return front ++ (← readSegments text fuel rest)
  | _ => .error (.definition ("invalid upstream ref segment: " ++ text))

theorem readSegments_dot (text : String) (fuel : ℕ) (after : List Char) :
    readSegments text (fuel + 1) ('.' :: after) = match readField after with
      | some (field, rest) => readAfterField text fuel [field] rest
      | none => .error (.definition ("invalid upstream ref segment: " ++ text)) := by
  rw [readSegments]
  · cases readField after with
    | none => rfl
    | some read => rfl

theorem readSegments_other (text : String) (fuel : ℕ) {c : Char} (rest : List Char) (other : c ≠ '.') :
    readSegments text (fuel + 1) (c :: rest) = readAfterField text fuel [] (c :: rest) := by
  rw [readSegments]
  · rfl
  · exact List.cons_ne_nil _ _
  · intro after same
    exact other (List.cons.inj same).1

/-- After a field the loop reads an index, goes on at a dot, or is done. -/
theorem readAfterField_ok {fuel : ℕ} {front : List RefSegment}
    (read : readAfterField text fuel front rest = .ok path) :
    (rest = [] ∧ path = front) ∨
      (∃ after tail, rest = '.' :: after ∧ readSegments text fuel rest = .ok tail ∧ path = front ++ tail) ∨
      (∃ index left tail, readIndex rest = some (index, left) ∧ readSegments text fuel left = .ok tail ∧
        path = front ++ index :: tail) := by
  unfold readAfterField at read
  split at read
  · split at read
    · next index left found =>
      cases tail : readSegments text fuel left with
      | error e => rw [tail] at read; cases read
      | ok tail' =>
        rw [tail] at read
        cases read
        exact .inr (.inr ⟨index, left, tail', found, tail, rfl⟩)
    · cases read
  · cases read
    exact .inl ⟨rfl, rfl⟩
  · next after =>
    cases tail : readSegments text fuel ('.' :: after) with
    | error e => rw [tail] at read; cases read
    | ok tail' =>
      rw [tail] at read
      cases read
      exact .inr (.inl ⟨after, tail', rfl, rfl, rfl⟩)
  · cases read

theorem readIndex_shorter {text : List Char}
    (found : readIndex text = some (segment, rest)) : rest.length < text.length := by
  obtain ⟨digits, rfl, -, -, -⟩ := readIndex_iff.mp found
  rw [List.length_cons, List.length_append, List.length_cons]
  omega

/-- **Soundness.** What the loop reads is spelled by what it read. -/
theorem readSegments_spells {fuel : ℕ}
    (room : rest.length ≤ fuel) (read : readSegments text fuel rest = .ok path) : Spells rest path := by
  induction fuel generalizing rest path with
  | zero =>
    cases List.length_eq_zero_iff.mp (Nat.le_zero.mp room)
    rw [readSegments] at read
    cases read
    exact .done
  | succ fuel ih =>
    -- what follows a field is short enough for the next turn, and so is what follows an index
    have after : ∀ {front rest path}, rest.length ≤ fuel + 1 → (∀ tail, rest = '.' :: tail → rest.length ≤ fuel) →
        readAfterField text fuel front rest = .ok path → ∃ tail, path = front ++ tail ∧ Spells rest tail := by
      intro front rest path room dot read
      rcases readAfterField_ok read with ⟨rfl, rfl⟩ | ⟨_, tail, at_dot, later, rfl⟩ |
        ⟨index, left, tail, found, later, rfl⟩
      · exact ⟨[], (List.append_nil _).symm, .done⟩
      · exact ⟨tail, rfl, ih (dot _ at_dot) later⟩
      · have shorter := readIndex_shorter found
        obtain ⟨digits, rfl, nonempty, all, rfl⟩ := readIndex_iff.mp found
        exact ⟨_, rfl, .index nonempty all (ih (by omega) later)⟩
    cases rest with
    | nil =>
      rw [readSegments] at read
      cases read
      exact .done
    | cons c rest =>
      by_cases dot : c = '.'
      · subst dot
        rw [readSegments_dot] at read
        split at read
        · next field left found =>
          obtain ⟨name, rfl, isName, -, rfl⟩ := readField_iff.mp found
          rw [List.length_cons, List.length_append] at room
          obtain ⟨tail, rfl, spells⟩ := after (by omega) (fun _ _ => by omega) read
          exact .field isName spells
        · cases read
      · rw [readSegments_other text fuel rest dot] at read
        obtain ⟨tail, rfl, spells⟩ := after room (fun _ same => (dot (List.cons.inj same).1).elim) read
        exact spells

/-- After a field the loop reads on where a path is spelled. -/
theorem readAfterField_spells {fuel : ℕ} {front : List RefSegment}
    (spells : Spells rest path)
    (reads : ∀ {left tail}, left.length ≤ rest.length → (∀ digits, rest = '[' :: digits → left.length < rest.length) →
      Spells left tail → readSegments text fuel left = .ok tail) :
    readAfterField text fuel front rest = .ok (front ++ path) := by
  cases spells with
  | done => exact congrArg Except.ok (List.append_nil front).symm
  | field isName tail =>
    have later := reads le_rfl (fun _ same => by cases same) (.field isName tail)
    rw [readAfterField, later]
    rfl
  | @index digits rest path nonempty all tail =>
    have found : readIndex ('[' :: (digits ++ ']' :: rest)) = some (.index (Nat.ofDigitChars 10 digits 0), rest) :=
      readIndex_iff.mpr ⟨digits, rfl, nonempty, all, rfl⟩
    have shorter := readIndex_shorter found
    have later := reads shorter.le (fun _ _ => shorter) tail
    rw [readAfterField, found]
    dsimp only
    rw [later]
    rfl

/-- **Completeness.** The loop reads whatever spells a path. -/
theorem Spells.reads (spells : Spells rest path) (text : String)
    {fuel : ℕ} (room : rest.length ≤ fuel) : readSegments text fuel rest = .ok path := by
  induction fuel generalizing rest path with
  | zero =>
    cases List.length_eq_zero_iff.mp (Nat.le_zero.mp room)
    cases spells
    rw [readSegments]
  | succ fuel ih =>
    cases spells with
    | done => rw [readSegments]
    | @field name rest path isName tail =>
      rw [List.length_cons, List.length_append] at room
      have found := readField_iff.mpr ⟨name, rfl, isName, tail.ends, rfl⟩
      rw [readSegments_dot, found]
      exact readAfterField_spells tail fun short _ spelled => ih spelled (by omega)
    | index nonempty all tail =>
      rw [readSegments_other text fuel _ (by decide)]
      refine readAfterField_spells (.index nonempty all tail) fun _ short spelled => ih spelled ?_
      have shorter := short _ rfl
      omega

theorem readAfterField_congr {fuel more : ℕ} (front : List RefSegment)
    (same : ∀ {left : List Char}, left.length ≤ rest.length →
      (∀ digits, rest = '[' :: digits → left.length < rest.length) →
      readSegments text fuel left = readSegments text more left) :
    readAfterField text fuel front rest = readAfterField text more front rest := by
  unfold readAfterField
  split
  · next digits =>
    split
    · next index left found =>
      have shorter := readIndex_shorter found
      rw [same shorter.le fun _ _ => shorter]
    · rfl
  · rfl
  · next after => rw [same le_rfl fun _ other => by cases other]
  · rfl

/-- Once the loop has a turn for every character, more turns change nothing. -/
theorem readSegments_enough (text : String) {fuel more : ℕ} (room : rest.length ≤ fuel)
    (room' : rest.length ≤ more) : readSegments text fuel rest = readSegments text more rest := by
  induction fuel generalizing more rest with
  | zero =>
    cases List.length_eq_zero_iff.mp (Nat.le_zero.mp room)
    rw [readSegments, readSegments]
  | succ fuel ih =>
    cases rest with
    | nil => rw [readSegments, readSegments]
    | cons c rest =>
      obtain ⟨more, rfl⟩ : ∃ n, more = n + 1 := Nat.exists_eq_add_one.mpr (Nat.lt_of_lt_of_le (Nat.succ_pos _) room')
      rw [List.length_cons] at room room'
      by_cases dot : c = '.'
      · subst dot
        rw [readSegments_dot, readSegments_dot]
        split
        · next field left found =>
          obtain ⟨name, rfl, -, -, -⟩ := readField_iff.mp found
          rw [List.length_append] at room room'
          exact readAfterField_congr _ fun short _ => ih (by omega) (by omega)
        · rfl
      · rw [readSegments_other text fuel rest dot, readSegments_other text more rest dot]
        by_cases bracket : c = '['
        · subst bracket
          refine readAfterField_congr _ fun _ short => ?_
          have shorter := short rest rfl
          rw [List.length_cons] at shorter
          exact ih (by omega) (by omega)
        · unfold readAfterField
          split <;> simp_all

/-! ## References -/

/-- What `parse_upstream_ref` accepts, and as what. -/
theorem parseUpstreamRef_iff {ref response : String} :
    parseUpstreamRef ref = .ok (response, path) ↔
      ∃ rest, (stripped ref).toList = response.toList ++ rest ∧ IsName response.toList ∧ Spells rest path ∧ path ≠ [] := by
  unfold parseUpstreamRef
  dsimp only
  constructor
  · intro parsed
    split at parsed
    · next head rest taken =>
      obtain ⟨whole, isName, -⟩ := takeName_some taken
      split at parsed
      · cases parsed
      · cases read : readSegments (stripped ref) rest.length rest with
        | error e => rw [read] at parsed; cases parsed
        | ok segments =>
          rw [read] at parsed
          cases segments with
          | nil => cases parsed
          | cons segment segments =>
            cases parsed
            rw [String.toList_ofList]
            exact ⟨rest, whole, isName, readSegments_spells le_rfl read, List.cons_ne_nil _ _⟩
    · cases parsed
  · rintro ⟨rest, whole, isName, spells, nonempty⟩
    rw [whole, takeName_append isName spells.ends]
    dsimp only
    rw [if_neg (mt List.contains_iff_mem.mp spells.no_newline), spells.reads _ le_rfl]
    cases path with
    | nil => exact (nonempty rfl).elim
    | cons segment path =>
      rw [String.ofList_toList]
      rfl

def bracketSegment : RefSegment → List Char
  | .field name => '.' :: name.toList
  | .index n => '[' :: (Nat.toDigits 10 n ++ [']'])

/-- A segment as it is written in redacted evidence, after a dot. -/
def dottedSegment : RefSegment → List Char
  | .field name => '.' :: name.toList
  | .index n => '.' :: Nat.toDigits 10 n

/-- A path of a response as a reference spells it. -/
def spelledRef (spell : RefSegment → List Char) (response : String) (path : List RefSegment) : String :=
  String.ofList (response.toList ++ path.flatMap spell)

/-- `r.list[0].id` -/
def bracketRef : String → List RefSegment → String := spelledRef bracketSegment

/-- `r.list.0.id` -/
def dottedRef : String → List RefSegment → String := spelledRef dottedSegment

example : bracketRef "r" [.field "list", .index 0, .field "id"] = "r.list[0].id" := by decide +kernel
example : dottedRef "r" [.field "list", .index 0, .field "id"] = "r.list.0.id" := by decide +kernel

/-- A segment that a reference can name. -/
def RefSegment.Named : RefSegment → Prop
  | .field name => IsName name.toList
  | .index _ => True

theorem Spells.named (spells : Spells rest path) :
    ∀ segment ∈ path, segment.Named := by
  induction spells with
  | done => exact fun _ mem => by cases mem
  | field isName _ ih =>
    intro segment mem
    rcases List.mem_cons.mp mem with rfl | mem
    · rw [RefSegment.Named, String.toList_ofList]
      exact isName
    · exact ih segment mem
  | index _ _ _ ih =>
    intro segment mem
    rcases List.mem_cons.mp mem with rfl | mem
    · exact trivial
    · exact ih segment mem

theorem spells_brackets (named : ∀ segment ∈ path, segment.Named) :
    Spells (path.flatMap bracketSegment) path := by
  induction path with
  | nil => exact .done
  | cons segment path ih =>
    have tail := ih fun other mem => named other (.tail _ mem)
    rw [List.flatMap_cons]
    cases segment with
    | field name =>
      have spells := Spells.field (named (.field name) (.head _)) tail
      rw [String.ofList_toList] at spells
      exact spells
    | index n =>
      have spells := Spells.index Nat.toDigits_ne_nil (digits_isDigit n) tail
      rw [Nat.ofDigitChars_ten_toDigits] at spells
      rw [bracketSegment, List.cons_append, List.append_assoc]
      exact spells

/-- After a dot stands a field. -/
theorem Spells.of_dot {after : List Char} (spells : Spells ('.' :: after) path) :
    ∃ name rest tail, after = name ++ rest ∧ IsName name ∧ Spells rest tail ∧ path = .field (String.ofList name) :: tail := by
  cases spells with
  | field isName tail => exact ⟨_, _, _, rfl, isName, tail, rfl⟩

theorem dotted_ends (path : List RefSegment) : EndsName (path.flatMap dottedSegment) := by
  intro c first
  cases path with
  | nil => cases first
  | cons segment path => cases segment <;> cases first <;> rfl

theorem IsName.not_digits {name digits left : List Char} (isName : IsName name) (nonempty : digits ≠ [])
    (all : ∀ c ∈ digits, c.isDigit = true) (same : digits ++ left = name ++ rest) : False := by
  obtain ⟨start, -⟩ := isName
  cases name with
  | nil => cases start
  | cons c name =>
    cases digits with
    | nil => exact nonempty rfl
    | cons d digits =>
      obtain ⟨rfl, -⟩ := List.cons.inj same
      have digit := isDigit_range (all d (.head _))
      have letter := isNameStart_range (show isNameStart d = true from start)
      omega

/-- A path whose dotted spelling is read holds no index. -/
theorem Spells.no_dotted_index {read : List RefSegment} (named : ∀ segment ∈ path, segment.Named)
    (spells : Spells (path.flatMap dottedSegment) read) : ∀ n, RefSegment.index n ∉ path := by
  induction path generalizing read with
  | nil => exact fun _ mem => by cases mem
  | cons segment path ih =>
    rw [List.flatMap_cons] at spells
    cases segment with
    | index n =>
      obtain ⟨name, rest, tail, same, isName, -, -⟩ := Spells.of_dot spells
      exact (isName.not_digits Nat.toDigits_ne_nil (digits_isDigit n) same).elim
    | field name =>
      obtain ⟨front, rest, tail, same, isName, later, -⟩ := Spells.of_dot spells
      have here := takeName_append (named (.field name) (.head _)) (dotted_ends path)
      rw [show name.toList ++ path.flatMap dottedSegment = front ++ rest from same, takeName_append isName later.ends]
        at here
      obtain ⟨-, rfl⟩ := Prod.mk.inj (Option.some.inj here)
      intro n mem
      rcases List.mem_cons.mp mem with other | mem
      · cases other
      · exact ih (fun other mem => named other (.tail _ mem)) later n mem

/-- Without an index the two spellings are one. -/
theorem dottedRef_eq_bracketRef (response : String)
    (fields : ∀ n, RefSegment.index n ∉ path) : dottedRef response path = bracketRef response path := by
  unfold dottedRef bracketRef spelledRef
  congr 2
  refine List.flatMap_congr fun segment mem => ?_
  cases segment with
  | field name => rfl
  | index n => exact (fields n mem).elim

/-! ## The laws -/

/-- A path of a response, as a reference can name it. -/
structure Reference where
  response : String
  path : List RefSegment
  isName : IsName response.toList
  named : ∀ segment ∈ path, segment.Named
  nonempty : path ≠ []

theorem bracketSegment_solid (named : segment.Named) :
    ∀ c ∈ bracketSegment segment, isSpace c = false := by
  intro c mem
  cases segment with
  | field name =>
    rcases List.mem_cons.mp mem with rfl | mem
    · rfl
    · exact named.solid c mem
  | index n =>
    rcases List.mem_cons.mp mem with rfl | mem
    · rfl
    · rcases List.mem_append.mp mem with mem | mem
      · exact digit_solid (digits_isDigit n c mem)
      · cases List.mem_singleton.mp mem
        rfl

theorem dottedSegment_solid (named : segment.Named) :
    ∀ c ∈ dottedSegment segment, isSpace c = false := by
  intro c mem
  cases segment with
  | field name =>
    rcases List.mem_cons.mp mem with rfl | mem
    · rfl
    · exact named.solid c mem
  | index n =>
    rcases List.mem_cons.mp mem with rfl | mem
    · rfl
    · exact digit_solid (digits_isDigit n c mem)

theorem Reference.stripped_spelled (r : Reference) (spell : RefSegment → List Char)
    (solid : ∀ segment ∈ r.path, ∀ c ∈ spell segment, isSpace c = false) :
    stripped (spelledRef spell r.response r.path) = spelledRef spell r.response r.path := by
  refine stripped_eq_self fun c mem => ?_
  rw [spelledRef, String.toList_ofList] at mem
  rcases List.mem_append.mp mem with mem | mem
  · exact r.isName.solid c mem
  · obtain ⟨segment, inside, mem⟩ := List.mem_flatMap.mp mem
    exact solid segment inside c mem

/-- The bracket spelling of a reference is read as the reference. -/
theorem Reference.parse_bracketRef (r : Reference) :
    parseUpstreamRef (bracketRef r.response r.path) = .ok (r.response, r.path) := by
  have whole := r.stripped_spelled bracketSegment fun segment mem => bracketSegment_solid (r.named segment mem)
  refine parseUpstreamRef_iff.mpr ⟨r.path.flatMap bracketSegment, ?_, r.isName, spells_brackets r.named, r.nonempty⟩
  rw [bracketRef, whole, spelledRef, String.toList_ofList]

/-- The dotted spelling of a reference is accepted only without an index. -/
theorem Reference.fields_of_parse_dottedRef (r : Reference) {response : String}
    (parsed : parseUpstreamRef (dottedRef r.response r.path) = .ok (response, path)) :
    ∀ n, RefSegment.index n ∉ r.path := by
  have whole := r.stripped_spelled dottedSegment fun segment mem => dottedSegment_solid (r.named segment mem)
  obtain ⟨rest, same, isName, spells, -⟩ := parseUpstreamRef_iff.mp parsed
  rw [dottedRef, whole, spelledRef, String.toList_ofList] at same
  have taken := takeName_append r.isName (dotted_ends r.path)
  rw [same, takeName_append isName spells.ends] at taken
  obtain ⟨-, rfl⟩ := Prod.mk.inj (Option.some.inj taken)
  exact spells.no_dotted_index r.named

/-- A path as it may be spelled when both kinds of index are allowed. -/
inductive Spelling : List Char → List RefSegment → Prop
  | done : Spelling [] []
  | field {name rest : List Char} {path : List RefSegment} :
      IsName name → Spelling rest path → Spelling ('.' :: (name ++ rest)) (.field (String.ofList name) :: path)
  | bracket {digits rest : List Char} {path : List RefSegment} :
      digits ≠ [] → (∀ c ∈ digits, c.isDigit = true) → Spelling rest path →
      Spelling ('[' :: (digits ++ ']' :: rest)) (.index (Nat.ofDigitChars 10 digits 0) :: path)
  | dotted {digits rest : List Char} {path : List RefSegment} :
      digits ≠ [] → (∀ c ∈ digits, c.isDigit = true) → Spelling rest path →
      Spelling ('.' :: (digits ++ rest)) (.index (Nat.ofDigitChars 10 digits 0) :: path)

theorem Spells.spelling (spells : Spells rest path) : Spelling rest path := by
  induction spells with
  | done => exact .done
  | field isName _ ih => exact .field isName ih
  | index nonempty all _ ih => exact .bracket nonempty all ih

/-- What is to hold of a reference: both of its spellings are read as it is, the bracket spelling
of whatever is accepted is read the same again, what spells no reference is rejected, and the loop
ends. -/
structure ReadsBothSpellings (r : Reference) : Prop where
  bracket : parseUpstreamRef (bracketRef r.response r.path) = .ok (r.response, r.path)
  dotted : parseUpstreamRef (dottedRef r.response r.path) = .ok (r.response, r.path)
  again : ∀ ref response path, parseUpstreamRef ref = .ok (response, path) →
    parseUpstreamRef (bracketRef response path) = .ok (response, path)
  rejected : ∀ ref, (∀ (response : List Char) rest path, (stripped ref).toList = response ++ rest → IsName response →
    path ≠ [] → ¬ Spelling rest path) → ∃ e, parseUpstreamRef ref = .error e
  ends : ∀ text rest fuel, rest.length ≤ fuel → readSegments text fuel rest = readSegments text rest.length rest

/-- The identity of the first of a list, which redacted evidence spells `r.list.0.id`. -/
def firstOfList : Reference where
  response := "r"
  path := [.field "list", .index 0, .field "id"]
  isName := ⟨rfl, List.all_eq_true.mp (by decide)⟩
  named := by
    intro segment mem
    simp only [List.mem_cons, List.not_mem_nil, or_false] at mem
    rcases mem with rfl | rfl | rfl
    · exact ⟨rfl, List.all_eq_true.mp (by decide)⟩
    · exact trivial
    · exact ⟨rfl, List.all_eq_true.mp (by decide)⟩
  nonempty := List.cons_ne_nil _ _

end ApiManger.Chain
