import ApiManger.Python.Canonical
import ApiManger.Python.Text

/-!
# Redacted arguments

`redact_arguments` of `apiAnalysis/ai_cli/session.py` masks what is stored under a key with a sensitive
part before the arguments of a tool are shown or logged. It goes through mappings and through lists of
mappings; a list in a list is shown as it is. `lower` is `str.lower`.
-/

namespace ApiManger.AiCli
open Python

def sensitiveKeyParts : List String := [
  "token", "password", "secret", "authorization", "cookie", "api_key", "apikey", "access_key", "private",
  "credential"]

section
variable (lower : String → String)

def isSensitive (key : String) : Bool := sensitiveKeyParts.any (containsText (lower key))

/-! ## The code -/

mutual

def redactArguments : Json → Json
  | .obj fields => .obj (redactFields fields)
  | value => value

/-- The value of a key without a sensitive part. -/
def redactValue : Json → Json
  | .obj fields => .obj (redactFields fields)
  | .arr items => .arr (redactItems items)
  | value => value

def redactFields : List (String × Json) → List (String × Json)
  | [] => []
  | (key, value) :: rest =>
    (key, if isSensitive lower key then .str "***" else redactValue value) :: redactFields rest

def redactItems : List Json → List Json
  | [] => []
  | item :: rest => redactArguments item :: redactItems rest

end

/-! ## What it is for -/

mutual

/-- The document with `mask` in place of every value stored under a sensitive key, at any depth. -/
def eraseSecrets (mask : Json) : Json → Json
  | .obj fields => .obj (eraseFields mask fields)
  | .arr items => .arr (eraseItems mask items)
  | value => value

def eraseFields (mask : Json) : List (String × Json) → List (String × Json)
  | [] => []
  | (key, value) :: rest =>
    (key, if isSensitive lower key then mask else eraseSecrets mask value) :: eraseFields mask rest

def eraseItems (mask : Json) : List Json → List Json
  | [] => []
  | item :: rest => eraseSecrets mask item :: eraseItems mask rest

end

/-- The documents are equal except for the values stored under sensitive keys. -/
def SameButSecrets (a b : Json) : Prop := (eraseSecrets lower (.str "***") a).Same (eraseSecrets lower (.str "***") b)

/-! ## What it covers -/

mutual

/-- No key at any depth is sensitive. -/
def secretFree : Json → Bool
  | .obj fields => secretFreeFields fields
  | .arr items => secretFreeItems items
  | _ => true

def secretFreeFields : List (String × Json) → Bool
  | [] => true
  | (key, value) :: rest => !isSensitive lower key && secretFree value && secretFreeFields rest

def secretFreeItems : List Json → Bool
  | [] => true
  | item :: rest => secretFree item && secretFreeItems rest

end

mutual

/-- No list that is an element of a list has a sensitive key in it. -/
def covered : Json → Bool
  | .obj fields => coveredFields fields
  | .arr items => secretFreeItems lower items
  | _ => true

def coveredValue : Json → Bool
  | .obj fields => coveredFields fields
  | .arr items => coveredItems items
  | _ => true

def coveredFields : List (String × Json) → Bool
  | [] => true
  | (key, value) :: rest => (isSensitive lower key || coveredValue value) && coveredFields rest

def coveredItems : List Json → Bool
  | [] => true
  | item :: rest => covered item && coveredItems rest

end

end

section
variable {lower : String → String} {mask : Json}

/-! ## Elements and entries -/

theorem redactItems_eq (items : List Json) : redactItems lower items = items.map (redactArguments lower) := by
  induction items with
  | nil => rfl
  | cons item rest ih => rw [redactItems, ih, List.map_cons]

theorem redactFields_eq (fields : Dict) : redactFields lower fields =
    fields.map fun e => (e.1, if isSensitive lower e.1 then .str "***" else redactValue lower e.2) := by
  induction fields with
  | nil => rfl
  | cons e rest ih => rw [redactFields, ih, List.map_cons]

theorem eraseItems_eq (items : List Json) : eraseItems lower mask items = items.map (eraseSecrets lower mask) := by
  induction items with
  | nil => rfl
  | cons item rest ih => rw [eraseItems, ih, List.map_cons]

theorem eraseFields_eq (fields : Dict) : eraseFields lower mask fields =
    fields.map fun e => (e.1, if isSensitive lower e.1 then mask else eraseSecrets lower mask e.2) := by
  induction fields with
  | nil => rfl
  | cons e rest ih => rw [eraseFields, ih, List.map_cons]

theorem secretFreeFields_iff {fields : Dict} : secretFreeFields lower fields = true ↔
    ∀ e ∈ fields, isSensitive lower e.1 = false ∧ secretFree lower e.2 = true := by
  induction fields with
  | nil => simp [secretFreeFields]
  | cons e rest ih => simp [secretFreeFields, ih]

theorem coveredFields_iff {fields : Dict} : coveredFields lower fields = true ↔
    ∀ e ∈ fields, isSensitive lower e.1 = true ∨ coveredValue lower e.2 = true := by
  induction fields with
  | nil => simp [coveredFields]
  | cons e rest ih => simp [coveredFields, ih]

/-! ## Secrets that are not covered stay -/

mutual

theorem eraseSecrets_free : (value : Json) → secretFree lower value = true → eraseSecrets lower mask value = value
  | .null, _ | .bool _, _ | .int _, _ | .float _, _ | .str _, _ => rfl
  | .arr items, free => by rw [eraseSecrets, eraseItems_free items free]
  | .obj fields, free => by rw [eraseSecrets, eraseFields_free fields free]

theorem eraseFields_free : (fields : List (String × Json)) → secretFreeFields lower fields = true →
    eraseFields lower mask fields = fields
  | [], _ => rfl
  | (key, value) :: rest, free => by
    simp only [secretFreeFields, Bool.and_eq_true, Bool.not_eq_true'] at free
    rw [eraseFields, free.1.1, eraseSecrets_free value free.1.2, eraseFields_free rest free.2]
    rfl

theorem eraseItems_free : (items : List Json) → secretFreeItems lower items = true →
    eraseItems lower mask items = items
  | [], _ => rfl
  | item :: rest, free => by
    simp only [secretFreeItems, Bool.and_eq_true] at free
    rw [eraseItems, eraseSecrets_free item free.1, eraseItems_free rest free.2]

end

mutual

/-- Erasing changes no key. -/
theorem secretFree_erase : (value : Json) → secretFree lower (eraseSecrets lower mask value) = secretFree lower value
  | .null | .bool _ | .int _ | .float _ | .str _ => rfl
  | .arr items => by rw [eraseSecrets, secretFree, secretFree, secretFreeItems_erase items]
  | .obj fields => by rw [eraseSecrets, secretFree, secretFree, secretFreeFields_erase fields]

theorem secretFreeFields_erase : (fields : List (String × Json)) →
    secretFreeFields lower (eraseFields lower mask fields) = secretFreeFields lower fields
  | [] => rfl
  | (key, value) :: rest => by
    rw [eraseFields, secretFreeFields, secretFreeFields, secretFreeFields_erase rest]
    cases isSensitive lower key with
    | true => rfl
    | false => rw [if_neg Bool.false_ne_true, secretFree_erase value]

theorem secretFreeItems_erase : (items : List Json) →
    secretFreeItems lower (eraseItems lower mask items) = secretFreeItems lower items
  | [] => rfl
  | item :: rest => by
    rw [eraseItems, secretFreeItems, secretFreeItems, secretFree_erase item, secretFreeItems_erase rest]

end

mutual

theorem covered_erase : (value : Json) → covered lower (eraseSecrets lower mask value) = covered lower value
  | .null | .bool _ | .int _ | .float _ | .str _ => rfl
  | .arr items => by rw [eraseSecrets, covered, covered, secretFreeItems_erase items]
  | .obj fields => by rw [eraseSecrets, covered, covered, coveredFields_erase fields]

theorem coveredValue_erase : (value : Json) →
    coveredValue lower (eraseSecrets lower mask value) = coveredValue lower value
  | .null | .bool _ | .int _ | .float _ | .str _ => rfl
  | .arr items => by rw [eraseSecrets, coveredValue, coveredValue, coveredItems_erase items]
  | .obj fields => by rw [eraseSecrets, coveredValue, coveredValue, coveredFields_erase fields]

theorem coveredFields_erase : (fields : List (String × Json)) →
    coveredFields lower (eraseFields lower mask fields) = coveredFields lower fields
  | [] => rfl
  | (key, value) :: rest => by
    rw [eraseFields, coveredFields, coveredFields, coveredFields_erase rest]
    cases isSensitive lower key with
    | true => rfl
    | false => rw [if_neg Bool.false_ne_true, coveredValue_erase value]

theorem coveredItems_erase : (items : List Json) →
    coveredItems lower (eraseItems lower mask items) = coveredItems lower items
  | [] => rfl
  | item :: rest => by rw [eraseItems, coveredItems, coveredItems, covered_erase item, coveredItems_erase rest]

end

mutual

/-- Where everything is covered, redacting erases. -/
theorem redact_covered : (value : Json) → covered lower value = true →
    redactArguments lower value = eraseSecrets lower (.str "***") value
  | .null, _ | .bool _, _ | .int _, _ | .float _, _ | .str _, _ => rfl
  | .arr items, free => (eraseSecrets_free (.arr items) free).symm
  | .obj fields, covers => by rw [redactArguments, eraseSecrets, redactFields_covered fields covers]

theorem redactValue_covered : (value : Json) → coveredValue lower value = true →
    redactValue lower value = eraseSecrets lower (.str "***") value
  | .null, _ | .bool _, _ | .int _, _ | .float _, _ | .str _, _ => rfl
  | .arr items, covers => by rw [redactValue, eraseSecrets, redactItems_covered items covers]
  | .obj fields, covers => by rw [redactValue, eraseSecrets, redactFields_covered fields covers]

theorem redactFields_covered : (fields : List (String × Json)) → coveredFields lower fields = true →
    redactFields lower fields = eraseFields lower (.str "***") fields
  | [], _ => rfl
  | (key, value) :: rest, covers => by
    simp only [coveredFields, Bool.and_eq_true, Bool.or_eq_true] at covers
    rw [redactFields, eraseFields, redactFields_covered rest covers.2]
    rcases covers.1 with sensitive | covers
    · rw [if_pos sensitive, if_pos sensitive]
    · rw [redactValue_covered value covers]

theorem redactItems_covered : (items : List Json) → coveredItems lower items = true →
    redactItems lower items = eraseItems lower (.str "***") items
  | [], _ => rfl
  | item :: rest, covers => by
    simp only [coveredItems, Bool.and_eq_true] at covers
    rw [redactItems, eraseItems, redact_covered item covers.1, redactItems_covered rest covers.2]

end

/-! ## Keys in another order -/

theorem secretFreeFields_sort (fields : Dict) :
    secretFreeFields lower (sortFields fields) = secretFreeFields lower fields := by
  rw [Bool.eq_iff_iff, secretFreeFields_iff, secretFreeFields_iff]
  simp only [sortFields, List.mem_insertionSort]

theorem coveredFields_sort (fields : Dict) : coveredFields lower (sortFields fields) = coveredFields lower fields := by
  rw [Bool.eq_iff_iff, coveredFields_iff, coveredFields_iff]
  simp only [sortFields, List.mem_insertionSort]

mutual

theorem secretFree_canonical : (value : Json) → secretFree lower value.canonical = secretFree lower value
  | .null | .bool _ | .int _ | .float _ | .str _ => rfl
  | .arr items => by rw [Json.canonical, secretFree, secretFree, secretFreeItems_canonical items]
  | .obj fields => by
    rw [Json.canonical, secretFree, secretFree, secretFreeFields_sort, secretFreeFields_canonical fields]

theorem secretFreeFields_canonical : (fields : List (String × Json)) →
    secretFreeFields lower (Json.canonicalFields fields) = secretFreeFields lower fields
  | [] => rfl
  | (key, value) :: rest => by
    rw [Json.canonicalFields, secretFreeFields, secretFreeFields, secretFree_canonical value,
      secretFreeFields_canonical rest]

theorem secretFreeItems_canonical : (items : List Json) →
    secretFreeItems lower (Json.canonicalItems items) = secretFreeItems lower items
  | [] => rfl
  | item :: rest => by
    rw [Json.canonicalItems, secretFreeItems, secretFreeItems, secretFree_canonical item,
      secretFreeItems_canonical rest]

end

mutual

theorem covered_canonical : (value : Json) → covered lower value.canonical = covered lower value
  | .null | .bool _ | .int _ | .float _ | .str _ => rfl
  | .arr items => by rw [Json.canonical, covered, covered, secretFreeItems_canonical items]
  | .obj fields => by rw [Json.canonical, covered, covered, coveredFields_sort, coveredFields_canonical fields]

theorem coveredValue_canonical : (value : Json) → coveredValue lower value.canonical = coveredValue lower value
  | .null | .bool _ | .int _ | .float _ | .str _ => rfl
  | .arr items => by rw [Json.canonical, coveredValue, coveredValue, coveredItems_canonical items]
  | .obj fields => by
    rw [Json.canonical, coveredValue, coveredValue, coveredFields_sort, coveredFields_canonical fields]

theorem coveredFields_canonical : (fields : List (String × Json)) →
    coveredFields lower (Json.canonicalFields fields) = coveredFields lower fields
  | [] => rfl
  | (key, value) :: rest => by
    rw [Json.canonicalFields, coveredFields, coveredFields, coveredValue_canonical value, coveredFields_canonical rest]

theorem coveredItems_canonical : (items : List Json) →
    coveredItems lower (Json.canonicalItems items) = coveredItems lower items
  | [] => rfl
  | item :: rest => by
    rw [Json.canonicalItems, coveredItems, coveredItems, covered_canonical item, coveredItems_canonical rest]

end

/-- Documents that are the same but for their secrets are covered alike. -/
theorem covered_alike {a b : Json} (same : SameButSecrets lower a b) : covered lower a = covered lower b := by
  have erased : ∀ c, covered lower (eraseSecrets lower (.str "***") c) = covered lower c := covered_erase
  rw [← erased a, ← erased b, ← covered_canonical, same, covered_canonical]

/-! ## Two secrets -/

section
variable {m n : Json}

mutual

/-- What is the same with two different secrets in it has no secret. -/
theorem secretFree_of_same (differ : ¬m.Same n) : (value : Json) →
    (eraseSecrets lower m value).Same (eraseSecrets lower n value) → secretFree lower value = true
  | .null, _ | .bool _, _ | .int _, _ | .float _, _ | .str _, _ => rfl
  | .arr items, same => by
    rw [eraseSecrets, eraseSecrets, eraseItems_eq, eraseItems_eq, Json.same_items] at same
    exact secretFreeItems_of_same differ items same
  | .obj fields, same => by
    rw [eraseSecrets, eraseSecrets, eraseFields_eq, eraseFields_eq, Json.same_fields] at same
    exact secretFreeFields_of_same differ fields same

theorem secretFreeFields_of_same (differ : ¬m.Same n) : (fields : List (String × Json)) →
    (∀ e ∈ fields, (if isSensitive lower e.1 then m else eraseSecrets lower m e.2).Same
      (if isSensitive lower e.1 then n else eraseSecrets lower n e.2)) → secretFreeFields lower fields = true
  | [], _ => rfl
  | (key, value) :: rest, same => by
    have later := secretFreeFields_of_same differ rest fun e mem => same e (.tail _ mem)
    have first := same (key, value) (.head _)
    by_cases sensitive : isSensitive lower key = true
    · simp only [sensitive, if_true] at first
      exact (differ first).elim
    · simp only [sensitive] at first
      rw [secretFreeFields, later, secretFree_of_same differ value first]
      simp [sensitive]

theorem secretFreeItems_of_same (differ : ¬m.Same n) : (items : List Json) →
    (∀ item ∈ items, (eraseSecrets lower m item).Same (eraseSecrets lower n item)) →
      secretFreeItems lower items = true
  | [], _ => rfl
  | item :: rest, same => by
    rw [secretFreeItems, secretFree_of_same differ item (same item (.head _)),
      secretFreeItems_of_same differ rest fun other mem => same other (.tail _ mem)]
    rfl

end

theorem redactFields_erase (fields : Dict) : redactFields lower (eraseFields lower m fields) =
    fields.map fun e =>
      (e.1, if isSensitive lower e.1 then .str "***" else redactValue lower (eraseSecrets lower m e.2)) := by
  rw [eraseFields_eq, redactFields_eq, List.map_map]
  refine List.map_congr_left fun e _ => ?_
  cases sensitive : isSensitive lower e.1 <;> simp [sensitive]

mutual

/-- A document whose redacted form is the same with two different secrets in it is covered. -/
theorem covered_of_same (differ : ¬m.Same n) : (value : Json) →
    (redactArguments lower (eraseSecrets lower m value)).Same (redactArguments lower (eraseSecrets lower n value)) →
    covered lower value = true
  | .null, _ | .bool _, _ | .int _, _ | .float _, _ | .str _, _ => rfl
  | .arr items, same => secretFree_of_same differ (.arr items) same
  | .obj fields, same => by
    rw [eraseSecrets, eraseSecrets, redactArguments, redactArguments, redactFields_erase, redactFields_erase,
      Json.same_fields] at same
    exact coveredFields_of_same differ fields same

theorem coveredValue_of_same (differ : ¬m.Same n) : (value : Json) →
    (redactValue lower (eraseSecrets lower m value)).Same (redactValue lower (eraseSecrets lower n value)) →
    coveredValue lower value = true
  | .null, _ | .bool _, _ | .int _, _ | .float _, _ | .str _, _ => rfl
  | .arr items, same => by
    rw [eraseSecrets, eraseSecrets, redactValue, redactValue, redactItems_eq, redactItems_eq, eraseItems_eq,
      eraseItems_eq, List.map_map, List.map_map, Json.same_items] at same
    exact coveredItems_of_same differ items same
  | .obj fields, same => by
    rw [eraseSecrets, eraseSecrets, redactValue, redactValue, redactFields_erase, redactFields_erase,
      Json.same_fields] at same
    exact coveredFields_of_same differ fields same

theorem coveredFields_of_same (differ : ¬m.Same n) : (fields : List (String × Json)) →
    (∀ e ∈ fields,
      (if isSensitive lower e.1 then .str "***" else redactValue lower (eraseSecrets lower m e.2)).Same
        (if isSensitive lower e.1 then .str "***" else redactValue lower (eraseSecrets lower n e.2))) →
    coveredFields lower fields = true
  | [], _ => rfl
  | (key, value) :: rest, same => by
    have later := coveredFields_of_same differ rest fun e mem => same e (.tail _ mem)
    have first := same (key, value) (.head _)
    by_cases sensitive : isSensitive lower key = true
    · simp [coveredFields, sensitive, later]
    · simp only [sensitive] at first
      rw [coveredFields, later, coveredValue_of_same differ value first]
      simp

theorem coveredItems_of_same (differ : ¬m.Same n) : (items : List Json) →
    (∀ item ∈ items, (redactArguments lower (eraseSecrets lower m item)).Same
      (redactArguments lower (eraseSecrets lower n item))) → coveredItems lower items = true
  | [], _ => rfl
  | item :: rest, same => by
    rw [coveredItems, covered_of_same differ item (same item (.head _)),
      coveredItems_of_same differ rest fun other mem => same other (.tail _ mem)]
    rfl

end

end

/-! ## Main result -/

mutual

/-- Of two erasures the later one shows. -/
theorem erase_erase (later : Json) : (value : Json) →
    eraseSecrets lower later (eraseSecrets lower mask value) = eraseSecrets lower later value
  | .null | .bool _ | .int _ | .float _ | .str _ => rfl
  | .arr items => by rw [eraseSecrets, eraseSecrets, eraseSecrets, eraseItems_erase later items]
  | .obj fields => by rw [eraseSecrets, eraseSecrets, eraseSecrets, eraseFields_erase later fields]

theorem eraseFields_erase (later : Json) : (fields : List (String × Json)) →
    eraseFields lower later (eraseFields lower mask fields) = eraseFields lower later fields
  | [] => rfl
  | (key, value) :: rest => by
    rw [eraseFields, eraseFields, eraseFields, eraseFields_erase later rest]
    cases isSensitive lower key with
    | true => rfl
    | false => simp only [Bool.false_eq_true, if_false, erase_erase later value]

theorem eraseItems_erase (later : Json) : (items : List Json) →
    eraseItems lower later (eraseItems lower mask items) = eraseItems lower later items
  | [] => rfl
  | item :: rest => by
    rw [eraseItems, eraseItems, eraseItems, erase_erase later item, eraseItems_erase later rest]

end

theorem sameButSecrets_erase (value : Json) : SameButSecrets lower value (eraseSecrets lower mask value) := by
  rw [SameButSecrets, erase_erase]
  exact .refl _

end

/-- The audit output of the document is the same for every other document that differs in its secrets only. -/
def AuditBlind (lower : String → String) (a : Json) : Prop :=
  ∀ b, SameButSecrets lower a b → (redactArguments lower a).Same (redactArguments lower b)

/-- **Redacted arguments.** The audit output of a document does not depend on its secrets if and only if no list in
a list of it has a sensitive key. -/
theorem audit_blind_iff (lower : String → String) (a : Json) : AuditBlind lower a ↔ covered lower a = true := by
  constructor
  · intro blind
    -- two documents with different secrets in all places
    have redacted : ∀ mask, (redactArguments lower a).Same (redactArguments lower (eraseSecrets lower mask a)) :=
      fun mask => blind _ (sameButSecrets_erase a)
    refine covered_of_same (m := .str "") (n := .str "x") (by decide) a ?_
    exact (redacted _).symm.trans (redacted _)
  · intro covers b same
    rw [redact_covered a covers, redact_covered b (covered_alike same ▸ covers)]
    exact same

/-- A token in a list in a list is shown. -/
theorem audit_not_blind : ¬ ∀ a : Json, AuditBlind (fun s => s.map Char.toLower) a := by
  intro blind
  let nested (secret : String) : Json := .obj [("items", .arr [.arr [.obj [("token", .str secret)]]])]
  have same := blind (nested "a") (nested "b") (by unfold SameButSecrets; decide +kernel)
  exact absurd same (by decide +kernel)

end ApiManger.AiCli
