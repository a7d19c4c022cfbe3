import ApiManger.Python.JsonText

/-!
# Compact JSON text

`json.dumps(value, sort_keys=True, separators=(",", ":"))`, in ASCII or not. What was written is read back by
`json.loads`, with its entries in order, so that two documents have one compact text just where they are the
same.
-/

namespace ApiManger.Python

mutual

/-- A document without space. -/
def Json.writeCompact (escape : Char → List Char) : Json → List Char
  | .null => "null".toList
  | .bool b => (if b then "true" else "false").toList
  | .int n => (toString n).toList
  | .float t => t.toList
  | .str s => quoted escape s
  | .arr items => '[' :: (Json.writeCompactItems escape [] items ++ [']'])
  | .obj fields => '\x7b' :: (Json.writeCompactFields escape [] fields ++ ['\x7d'])

/-- Items, the first of them after `front`. -/
def Json.writeCompactItems (escape : Char → List Char) : List Char → List Json → List Char
  | _, [] => []
  | front, value :: rest => front ++ (value.writeCompact escape ++ Json.writeCompactItems escape [','] rest)

def Json.writeCompactFields (escape : Char → List Char) : List Char → List (String × Json) → List Char
  | _, [] => []
  | front, (key, value) :: rest =>
    front ++ (quoted escape key ++ (':' :: (value.writeCompact escape ++ Json.writeCompactFields escape [','] rest)))

end

/-- `\uXXXX`. -/
def unicodeEscape (n : ℕ) : List Char :=
  ['\\', 'u', hexChar (n / 4096), hexChar (n / 256 % 16), hexChar (n / 16 % 16), hexChar (n % 16)]

/-- `ESCAPE_ASCII`: what is not ASCII is escaped too, above the first plane as a surrogate pair. -/
def escapeAscii (c : Char) : List Char :=
  if c.toNat < 127 then escapeChar c
  else if c.toNat < 0x10000 then unicodeEscape c.toNat
  else unicodeEscape (0xd800 + (c.toNat - 0x10000) / 0x400) ++ unicodeEscape (0xdc00 + (c.toNat - 0x10000) % 0x400)

/-- `json.dumps(value, ensure_ascii=False, sort_keys=True, separators=(",", ":"))` -/
def Json.dumpsCompact (value : Json) : String := String.ofList (value.canonical.writeCompact escapeChar)

/-- `json.dumps(value, ensure_ascii=True, sort_keys=True, separators=(",", ":"))` -/
def Json.dumpsAscii (value : Json) : String := String.ofList (value.canonical.writeCompact escapeAscii)

/-! ## Escaped characters -/

theorem hexCode_unicodeEscape {n : ℕ} (small : n < 65536) :
    hexCode (hexChar (n / 4096)) (hexChar (n / 256 % 16)) (hexChar (n / 16 % 16)) (hexChar (n % 16)) = some n := by
  unfold hexCode
  rw [hexValue_hexChar _ (by omega), hexValue_hexChar _ (by omega), hexValue_hexChar _ (by omega),
    hexValue_hexChar _ (by omega)]
  show some ((((n / 4096) * 16 + n / 256 % 16) * 16 + n / 16 % 16) * 16 + n % 16) = some n
  congr 1
  omega

theorem readsBack_escapeAscii : ReadsBack escapeAscii := by
  intro c rest
  unfold escapeAscii
  have valid : c.toNat < 0xd800 ∨ 0xdfff < c.toNat ∧ c.toNat < 0x110000 := c.valid
  split_ifs with ascii plane
  · exact readString_escapeChar c rest
  · have code := hexCode_unicodeEscape plane
    have noHigh : (0xd800 ≤ c.toNat && c.toNat < 0xdc00) = false := by simp; omega
    have noLow : (0xdc00 ≤ c.toNat && c.toNat < 0xe000) = false := by simp; omega
    change readString ('\\' :: 'u' :: hexChar (c.toNat / 4096) :: hexChar (c.toNat / 256 % 16) ::
      hexChar (c.toNat / 16 % 16) :: hexChar (c.toNat % 16) :: rest) = _
    rw [readString, code, Option.bind_eq_bind, Option.bind_some, noHigh, noLow, if_neg Bool.false_ne_true,
      if_neg Bool.false_ne_true, Char.ofNat_toNat]
  · obtain ⟨n, above⟩ : ∃ n, c.toNat = 0x10000 + n := ⟨c.toNat - 0x10000, by omega⟩
    have high := hexCode_unicodeEscape (show 0xd800 + n / 0x400 < 65536 by omega)
    have low := hexCode_unicodeEscape (show 0xdc00 + n % 0x400 < 65536 by omega)
    have isHigh : (0xd800 ≤ 0xd800 + n / 0x400 && 0xd800 + n / 0x400 < 0xdc00) = true := by simp; omega
    have isLow : (0xdc00 ≤ 0xdc00 + n % 0x400 && 0xdc00 + n % 0x400 < 0xe000) = true := by simp; omega
    have together : 0x10000 + (0xd800 + n / 0x400 - 0xd800) * 0x400 + (0xdc00 + n % 0x400 - 0xdc00) = c.toNat := by
      omega
    rw [show c.toNat - 0x10000 = n by omega, List.append_assoc]
    change readString ('\\' :: 'u' :: hexChar ((0xd800 + n / 0x400) / 4096) ::
      hexChar ((0xd800 + n / 0x400) / 256 % 16) :: hexChar ((0xd800 + n / 0x400) / 16 % 16) ::
        hexChar ((0xd800 + n / 0x400) % 16) :: '\\' :: 'u' :: hexChar ((0xdc00 + n % 0x400) / 4096) ::
          hexChar ((0xdc00 + n % 0x400) / 256 % 16) :: hexChar ((0xdc00 + n % 0x400) / 16 % 16) ::
            hexChar ((0xdc00 + n % 0x400) % 16) :: rest) = _
    rw [readString, high, Option.bind_eq_bind, Option.bind_some, isHigh, if_pos rfl]
    simp only [low, Option.bind_some, isLow, if_true, together, Char.ofNat_toNat]

/-! ## Reading back -/

/-- `separators=(",", ":")` -/
def compact (escape : Char → List Char) : Layout := ⟨escape, fun _ => [], []⟩

section
variable (escape : Char → List Char)

mutual

theorem layout_compact (level : ℕ) : (value : Json) → value.layout (compact escape) level = value.writeCompact escape
  | .null | .bool _ | .int _ | .float _ | .str _ => rfl
  | .arr items => by rw [Json.layout, Json.writeCompact, layoutItems_compact]; simp [compact]
  | .obj fields => by rw [Json.layout, Json.writeCompact, layoutFields_compact]; simp [compact]

theorem layoutItems_compact (level : ℕ) (front : List Char) : (items : List Json) →
    Json.layoutItems (compact escape) level front items = Json.writeCompactItems escape front items
  | [] => rfl
  | value :: rest => by rw [Json.layoutItems, Json.writeCompactItems, layout_compact, layoutItems_compact]; rfl

theorem layoutFields_compact (level : ℕ) (front : List Char) : (fields : List (String × Json)) →
    Json.layoutFields (compact escape) level front fields = Json.writeCompactFields escape front fields
  | [] => rfl
  | (key, value) :: rest => by
    rw [Json.layoutFields, Json.writeCompactFields, layout_compact, layoutFields_compact]; rfl

end
end

section
variable {float : String → String} {escape : Char → List Char} (readsBack : ReadsBack escape)
include readsBack

theorem readable_compact : (compact escape).Readable :=
  ⟨readsBack, fun _ _ mem => absurd mem List.not_mem_nil, fun _ mem => absurd mem List.not_mem_nil⟩

/-- The compact text of a document is read as its canonical form. -/
theorem loads_writeCompact {value : Json} (document : value.isDocument float = true) :
    Json.loads float (String.ofList (value.canonical.writeCompact escape)) = some value.canonical := by
  have canonical := isDocument_canonical value document
  have ends : EndsNumber [] := fun _ first => nomatch first
  have opens := layout_opens (compact escape) 0 value.canonical canonical
  have reads := read_layout (readable_compact readsBack) value.canonical canonical 0
    (value.canonical.writeCompact escape).length []
  rw [layout_compact] at opens reads
  have front := opens.skipSpace []
  rw [List.append_nil] at front reads
  unfold Json.loads
  rw [String.toList_ofList, front, reads le_rfl ends]
  rfl

/-- Two documents have one compact text just where they are the same. -/
theorem writeCompact_inj {a b : Json} (documentA : a.isDocument float = true) (documentB : b.isDocument float = true) :
    String.ofList (a.canonical.writeCompact escape) = String.ofList (b.canonical.writeCompact escape) ↔ a.Same b := by
  constructor
  · intro texts
    have reads := loads_writeCompact readsBack documentA
    rw [texts, loads_writeCompact readsBack documentB] at reads
    exact (Option.some.inj reads).symm
  · intro same
    rw [show a.canonical = b.canonical from same]

end

section
variable {float : String → String} {a b : Json} (documentA : a.isDocument float = true)
  (documentB : b.isDocument float = true)
include documentA

theorem loads_dumpsCompact : Json.loads float a.dumpsCompact = some a.canonical :=
  loads_writeCompact readString_escapeChar documentA

theorem loads_dumpsAscii : Json.loads float a.dumpsAscii = some a.canonical :=
  loads_writeCompact readsBack_escapeAscii documentA

include documentB

theorem dumpsCompact_inj : a.dumpsCompact = b.dumpsCompact ↔ a.Same b :=
  writeCompact_inj readString_escapeChar documentA documentB

theorem dumpsAscii_inj : a.dumpsAscii = b.dumpsAscii ↔ a.Same b :=
  writeCompact_inj readsBack_escapeAscii documentA documentB

end

end ApiManger.Python
