import Mathlib.Data.List.DropRight
import Ph5Firmware.Library.Decimal
import Ph5Firmware.Library.Text

/-!
# Text objects

The `String` of the Arduino core knows its length, so it may hold NULs; but most of
its functions work on the terminated text inside and see nothing behind the first NUL.

* `indexOf` and `substring` are inverse to writing texts one after the other:
  `indexOf_append`, `substring_append`.
* `trim_eq_self`, `trim_append_space`: blanks around a text.
-/

namespace ByteText

def ofString (text : String) : List UInt8 :=
  text.toList.map fun char => UInt8.ofNat char.toNat

/-- `isspace`. -/
def isSpace (byte : UInt8) : Bool :=
  byte = 32 || (9 ≤ byte && byte ≤ 13)

/-- `tolower`. -/
def toLower (byte : UInt8) : UInt8 :=
  if 65 ≤ byte ∧ byte ≤ 90 then byte + 32 else byte

def trim (text : List UInt8) : List UInt8 :=
  (text.dropWhile isSpace).rdropWhile isSpace

/-- An index as it is passed on: `-1` becomes the largest unsigned number. -/
def unsigned (index : ℤ) : ℕ :=
  (index % 4294967296).toNat

/-- The place of the first `byte` from `start` on, or `-1`. -/
def indexOf (text : List UInt8) (byte : UInt8) (start : ℕ) : ℤ :=
  match (Text.upTo 0 (text.drop start)).idxOf? byte with
  | some offset => (start + offset : ℕ)
  | none => -1

/-- The text between two places, whichever comes first. -/
def substring (text : List UInt8) (left right : ℕ) : List UInt8 :=
  (text.take (max left right)).drop (min left right)

/-- `==` with a literal. -/
def equals (text : List UInt8) (literal : String) : Bool :=
  Text.upTo 0 text = ofString literal

def equalsIgnoreCase (first second : List UInt8) : Bool :=
  first.length = second.length &&
    (Text.upTo 0 first).map toLower = (second.take (Text.upTo 0 first).length).map toLower

def startsWith (text : List UInt8) (literal : String) : Bool :=
  (ofString literal).isPrefixOf text

def endsWith (text : List UInt8) (literal : String) : Bool :=
  (ofString literal).isSuffixOf text

/-- `toLowerCase`, which stops at the first NUL. -/
def lowerCase (text : List UInt8) : List UInt8 :=
  (Text.upTo 0 text).map toLower ++ text.drop (Text.upTo 0 text).length

/-- The text without `pattern`, wherever it stands; the first bytes may belong to one that
has been found. -/
def removeFrom (pattern : List UInt8) : ℕ → List UInt8 → List UInt8
  | _, [] => []
  | found + 1, _ :: rest => removeFrom pattern found rest
  | 0, byte :: rest =>
      if pattern.isPrefixOf (byte :: rest) then removeFrom pattern (pattern.length - 1) rest
      else byte :: removeFrom pattern 0 rest

/-- `replace` by the empty text.  What then stands behind a NUL no other function sees. -/
def remove (pattern : String) (text : List UInt8) : List UInt8 :=
  removeFrom (ofString pattern) 0 (Text.upTo 0 text) ++ text.drop (Text.upTo 0 text).length

/-- `==` of two text objects. -/
def same (first second : List UInt8) : Bool :=
  first.length = second.length && Text.upTo 0 first = Text.upTo 0 second

/-- `atoi`, the number as an `int`. -/
def toInt (text : List UInt8) : ℤ :=
  max (-2147483648) (min 2147483647
    (Decimal.read ((Text.upTo 0 text).map fun byte => Char.ofNat byte.toNat)))

/-! ## Finding and cutting out -/

section Cut

variable {text : List UInt8} {byte : UInt8} (front back : List UInt8)

theorem unsigned_natCast {number : ℕ} (hnumber : number < 4294967296) :
    unsigned (number : ℕ) = number := by
  unfold unsigned
  omega

theorem unsigned_succ {number : ℕ} (hnumber : number < 4294967295) :
    unsigned ((number : ℕ) + 1) = number + 1 := by
  unfold unsigned
  omega

theorem idxOf?_append_cons (back : List UInt8) (hfirst : byte ∉ text) :
    (text ++ byte :: back).idxOf? byte = some text.length := by
  induction text with
  | nil => simp [List.idxOf?_cons]
  | cons head rest ih =>
      have hhead : (head == byte) = false := by
        rw [beq_eq_false_iff_ne]
        rintro rfl
        exact hfirst (List.mem_cons_self ..)
      have hrest := ih fun hmem => hfirst (List.mem_cons_of_mem head hmem)
      rw [List.cons_append, List.idxOf?_cons, hhead, hrest]
      rfl

/-- The first `byte` behind `front` stands after a text without it. -/
theorem indexOf_append (hbyte : byte ≠ 0) (hfirst : byte ∉ text) (hnul : 0 ∉ text) :
    indexOf (front ++ (text ++ byte :: back)) byte front.length =
      (front.length + text.length : ℕ) := by
  rw [indexOf, List.drop_left, Text.upTo_append_of_not_mem hnul, Text.upTo_cons_of_ne hbyte,
    idxOf?_append_cons _ hfirst]

theorem indexOf_of_not_mem (hnone : byte ∉ text) :
    indexOf (front ++ text) byte front.length = -1 := by
  have hterminated : byte ∉ Text.upTo 0 text := fun hmem =>
    hnone ((List.takeWhile_prefix _).subset hmem)
  rw [indexOf, List.drop_left, List.idxOf?_eq_none_iff.mpr hterminated]

theorem substring_append (text : List UInt8) :
    substring (front ++ (text ++ back)) front.length (front.length + text.length) = text := by
  rw [substring, Nat.max_eq_right (Nat.le_add_right ..), Nat.min_eq_left (Nat.le_add_right ..),
    ← List.append_assoc, ← List.length_append, List.take_left, List.drop_left]

theorem substring_of_le (text : List UInt8) {right : ℕ} (hright : (front ++ text).length ≤ right) :
    substring (front ++ text) front.length right = text := by
  have hleft : front.length ≤ right := by
    rw [List.length_append] at hright
    omega
  rw [substring, Nat.max_eq_right hleft, Nat.min_eq_left hleft, List.take_of_length_le hright,
    List.drop_left]

end Cut

/-! ## Blanks -/

theorem trim_eq_nil_iff {text : List UInt8} :
    trim text = [] ↔ ∀ byte ∈ text, isSpace byte = true := by
  rw [trim, List.rdropWhile_eq_nil_iff]
  constructor
  · intro hall byte hmem
    rw [← List.takeWhile_append_dropWhile (p := isSpace) (l := text)] at hmem
    rcases List.mem_append.mp hmem with hfront | hback
    · exact List.mem_takeWhile_imp hfront
    · exact hall byte hback
  · intro hall byte hmem
    exact hall byte ((List.dropWhile_suffix _).subset hmem)

/-- Blanks behind a text that begins and ends with none. -/
theorem trim_append {text blanks : List UInt8} (hblanks : ∀ byte ∈ blanks, isSpace byte = true)
    (hhead : ∀ byte ∈ text.head?, isSpace byte = false)
    (hlast : ∀ byte ∈ text.getLast?, isSpace byte = false) : trim (text ++ blanks) = text := by
  cases text with
  | nil => exact trim_eq_nil_iff.mpr hblanks
  | cons head rest =>
      have hbegin : ¬ isSpace head = true := by
        rw [hhead head rfl]
        exact Bool.false_ne_true
      rw [trim, List.cons_append, List.dropWhile_cons_of_neg hbegin, ← List.cons_append]
      induction blanks using List.reverseRecOn with
      | nil =>
          rw [List.append_nil, List.rdropWhile_eq_self_iff]
          intro hne
          rw [hlast _ (List.getLast?_eq_some_getLast hne)]
          exact Bool.false_ne_true
      | append_singleton blanks blank ih =>
          rw [← List.append_assoc, List.rdropWhile_concat_pos _ _ _ (hblanks blank (by simp))]
          exact ih fun byte hmem => hblanks byte (by simp [hmem])

end ByteText
