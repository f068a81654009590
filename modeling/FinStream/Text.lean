import Mathlib.Data.Rat.Defs
import Mathlib.Algebra.Order.Ring.Rat
import Mathlib.Data.List.DropRight

/-! Strings and numbers as the program's own language treats them. -/

namespace FinStream

/-- A property that a check of a whole list finds holds of every member. -/
theorem forall_mem_of_all {α : Type} {property : α → Prop} [DecidablePred property]
    {list : List α} (all : (list.all fun member => decide (property member)) = true) :
    ∀ member ∈ list, property member := by
  simpa using all

/-- A character that trimming removes: the Unicode `White_Space` property. -/
def isWhitespace (character : Char) : Bool :=
  let code := character.toNat
  (9 ≤ code && code ≤ 13) || code == 32 || code == 0x85 || code == 0xA0 || code == 0x1680 ||
    (0x2000 ≤ code && code ≤ 0x200A) || code == 0x2028 || code == 0x2029 || code == 0x202F ||
    code == 0x205F || code == 0x3000

/-- A control character: the Unicode category `Cc`. -/
def isControl (character : Char) : Bool :=
  character.toNat < 0x20 || (0x7F ≤ character.toNat && character.toNat < 0xA0)

/-- Removes leading and trailing whitespace. -/
def trim (value : String) : String :=
  String.ofList ((value.toList.dropWhile isWhitespace).reverse.dropWhile isWhitespace).reverse

/-- What follows a leading text, if a text starts with it. -/
def stripLeading (leading value : String) : Option String :=
  if leading.toList.isPrefixOf value.toList then
    some (String.ofList (value.toList.drop leading.toList.length))
  else none

/-- The UTF-8 bytes of a text. -/
def bytesOf (value : String) : List UInt8 := value.toList.flatMap String.utf8EncodeChar

/-- The text that bytes are the UTF-8 form of. -/
def fromUtf8 (bytes : List UInt8) : Option String :=
  bytes.toByteArray.utf8Decode?.map fun characters => String.ofList characters.toList

/-- Decoding the bytes of a text gives the text back. -/
@[simp] theorem fromUtf8_bytesOf (value : String) : fromUtf8 (bytesOf value) = some value := by
  have encoded : (bytesOf value).toByteArray = value.toList.utf8Encode := rfl
  rw [fromUtf8, encoded, List.utf8Decode?_utf8Encode]
  simp

/-- Bytes are decoded as a text exactly when they are its bytes. -/
theorem fromUtf8_eq_some {bytes : List UInt8} {value : String} :
    fromUtf8 bytes = some value ↔ bytes = bytesOf value := by
  constructor
  · intro decoded
    obtain ⟨characters, read, same⟩ := Option.map_eq_some_iff.mp decoded
    -- Bytes that are decoded are the encoding of some characters.
    obtain ⟨list, encoded⟩ := ByteArray.isSome_utf8Decode?_iff.mp (Option.isSome_of_eq_some read)
    rw [encoded, List.utf8Decode?_utf8Encode] at read
    obtain rfl := Option.some.inj read
    rw [← same, bytesOf, String.toList_ofList]
    have lists := congrArg (fun array => array.data.toList) encoded
    simpa [List.utf8Encode] using lists
  · rintro rfl
    exact fromUtf8_bytesOf value

/-- A text starts with a leading text exactly when it is that text and a rest. -/
theorem stripLeading_eq_some {leading value rest : String} :
    stripLeading leading value = some rest ↔ value = leading ++ rest := by
  unfold stripLeading
  split
  · rename_i starts
    obtain ⟨tail, same⟩ := List.isPrefixOf_iff_prefix.mp starts
    rw [← same, List.drop_left, Option.some.injEq]
    constructor
    · rintro rfl
      exact String.toList_injective (by simp [same])
    · rintro rfl
      refine String.toList_injective ?_
      rw [String.toList_append] at same
      simpa using List.append_cancel_left same
  · rename_i starts
    simp only [reduceCtorEq, false_iff]
    rintro rfl
    exact starts (List.isPrefixOf_iff_prefix.mpr (by simp))

/-- A text is its own trimmed form when it has no whitespace at either end. -/
theorem trim_eq_self_iff {value : String} : trim value = value ↔
    (∀ first ∈ value.toList.head?, isWhitespace first = false) ∧
      ∀ last ∈ value.toList.getLast?, isWhitespace last = false := by
  -- Dropping shortens whatever it does not leave alone.
  have dropped : ∀ characters : List Char, characters.length ≤
      (characters.dropWhile isWhitespace).length →
        ∀ first ∈ characters.head?, isWhitespace first = false := by
    intro characters long first starts
    cases characters with
    | nil => cases starts
    | cons other rest =>
      obtain rfl := Option.some.inj starts
      by_contra blank
      rw [List.dropWhile_cons_of_pos (by simpa using blank)] at long
      have shorter := (List.dropWhile_sublist isWhitespace (l := rest)).length_le
      rw [List.length_cons] at long
      omega
  have kept : ∀ characters : List Char, (∀ first ∈ characters.head?, isWhitespace first = false) →
      characters.dropWhile isWhitespace = characters := by
    intro characters solid
    cases characters with
    | nil => rfl
    | cons first rest => simp [solid first rfl]
  constructor
  · intro same
    have lengths := congrArg (List.length ∘ String.toList) same
    simp only [Function.comp_apply, trim, String.toList_ofList, List.length_reverse] at lengths
    have front := (List.dropWhile_sublist isWhitespace (l := value.toList)).length_le
    have back := (List.dropWhile_sublist isWhitespace
      (l := (value.toList.dropWhile isWhitespace).reverse)).length_le
    rw [List.length_reverse] at back
    have first := dropped value.toList (by omega)
    rw [kept _ first] at lengths
    refine ⟨first, fun last ends => dropped value.toList.reverse ?_ last ?_⟩
    · rw [List.length_reverse, lengths]
    · rwa [List.head?_reverse]
  · rintro ⟨first, last⟩
    rw [trim, kept _ first, kept _ (by rwa [List.head?_reverse]), List.reverse_reverse,
      String.ofList_toList]

/-- A text without whitespace is its own trimmed form. -/
theorem trim_eq_self {value : String}
    (solid : ∀ character ∈ value.toList, isWhitespace character = false) : trim value = value :=
  trim_eq_self_iff.mpr ⟨fun _ starts => solid _ (List.mem_of_head? starts),
    fun _ ends => solid _ (List.mem_of_getLast? ends)⟩

/-- Trimming twice is trimming once. -/
@[simp] theorem trim_trim (value : String) : trim (trim value) = trim value := by
  -- A start of a list that begins without whitespace begins without whitespace too.
  have front : ∀ start rest : List Char, (start ++ rest).dropWhile isWhitespace = start ++ rest →
      start.dropWhile isWhitespace = start := by
    intro start rest whole
    cases start with
    | nil => rfl
    | cons first others =>
      cases blank : isWhitespace first with
      | false => simp [blank]
      | true =>
        rw [List.cons_append, List.dropWhile_cons_of_pos blank] at whole
        have shorter := (List.dropWhile_sublist isWhitespace (l := others ++ rest)).length_le
        rw [whole, List.length_cons] at shorter
        omega
  have twice : ∀ characters : List Char,
      ((characters.dropWhile isWhitespace).rdropWhile isWhitespace).dropWhile isWhitespace =
        (characters.dropWhile isWhitespace).rdropWhile isWhitespace := by
    intro characters
    obtain ⟨rest, whole⟩ := List.rdropWhile_prefix isWhitespace (characters.dropWhile isWhitespace)
    exact front _ rest (by rw [whole, List.dropWhile_idempotent])
  have unfolded : ∀ text : String, trim text =
      String.ofList ((text.toList.dropWhile isWhitespace).rdropWhile isWhitespace) := fun _ => rfl
  rw [unfolded (trim value), unfolded value, String.toList_ofList, twice,
    List.rdropWhile_idempotent]

/-- A text that is nothing but whitespace counts as empty. -/
def isBlank (value : String) : Bool := trim value == ""

/-- A text with a character that is not whitespace is not blank. -/
theorem isBlank_eq_false {value : String} {character : Char} (member : character ∈ value.toList)
    (solid : isWhitespace character = false) : isBlank value = false := by
  -- Neither end can drop that character, so something is left.
  have front : value.toList.dropWhile isWhitespace ≠ [] := fun blank => by
    simp [List.dropWhile_eq_nil_iff.mp blank character member] at solid
  have kept : (value.toList.dropWhile isWhitespace).rdropWhile isWhitespace ≠ [] := by
    intro blank
    have first := List.rdropWhile_eq_nil_iff.mp blank _ (List.head_mem front)
    rw [List.head_dropWhile_not isWhitespace front] at first
    cases first
  simp only [isBlank, beq_eq_false_iff_ne, ne_eq]
  intro empty
  have unfolded : trim value =
      String.ofList ((value.toList.dropWhile isWhitespace).rdropWhile isWhitespace) := rfl
  rw [unfolded] at empty
  exact kept (by simpa using congrArg String.toList empty)

/-- Trims an optional text and drops it when nothing is left. -/
def cleanOptional (value : Option String) : Option String :=
  (value.map trim).filter (· != "")

/-- Cleaning twice is cleaning once. -/
@[simp] theorem cleanOptional_cleanOptional (value : Option String) :
    cleanOptional (cleanOptional value) = cleanOptional value := by
  cases value with
  | none => rfl
  | some text =>
    cases kept : trim text != "" <;> simp [cleanOptional, Option.filter, kept]

/-- A 64-bit float, read as the exact rational it denotes or as a value that is not finite. -/
inductive F64 where
  | finite (value : ℚ)
  | infinite
  | nan
  deriving DecidableEq

/-- Whether a float denotes a rational. -/
def F64.isFinite : F64 → Bool
  | .finite _ => true
  | _ => false

/-- The rational a finite float denotes; the program checks finiteness before it stores a float. -/
def F64.value : F64 → ℚ
  | .finite value => value
  | _ => 0

/-- The bound below which every REAL column of the schema keeps its magnitude. -/
def realBound : ℚ := 10 ^ 308

/-- The schema's CHECK on amounts: a non-negative number below the bound. -/
def magnitudeFits (value : ℚ) : Bool := 0 ≤ value && value < realBound

/-- The schema's CHECK on signed amounts. -/
def realFits (value : ℚ) : Bool := |value| < realBound

/-- `length` of SQL, which reads a text up to its first NUL. -/
def sqlLength (value : String) : ℕ := (value.toList.takeWhile (· != '\x00')).length

/-- `trim` of SQL, which takes spaces away and nothing else. -/
def sqlTrim (value : String) : String :=
  String.ofList ((value.toList.dropWhile (· == ' ')).reverse.dropWhile (· == ' ')).reverse

end FinStream
