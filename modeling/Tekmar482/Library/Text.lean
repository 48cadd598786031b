import Mathlib.Data.Nat.Notation
import Mathlib.Tactic.TypeStar

/-!
# Bytes and integers in text

Python's texts for bytes and integers, and how it reads them: `bytes.hex` and `bytes.fromhex`,
`int` of a text with a base, and the quoted form of a text in an error message.
-/

namespace Text

/-! ## Bytes -/

/-- An upper-case hexadecimal digit. -/
def hexDigit (n : Nat) : Char := if n < 10 then Char.ofNat (48 + n) else Char.ofNat (55 + n)

/-- The value of a hexadecimal digit. -/
def hexValue? (c : Char) : Option Nat :=
  let n := c.toNat
  if 48 ≤ n ∧ n ≤ 57 then some (n - 48)
  else if 65 ≤ n ∧ n ≤ 70 then some (n - 55)
  else if 97 ≤ n ∧ n ≤ 102 then some (n - 87)
  else none

def hexPair (byte : UInt8) : List Char :=
  [hexDigit (byte.toNat / 16), hexDigit (byte.toNat % 16)]

/-- `data.hex().upper()`. -/
def hex (data : List UInt8) : String := String.ofList (data.flatMap hexPair)

/-- The white space of ASCII. -/
def isSpace (c : Char) : Bool := c.toNat = 32 || 9 ≤ c.toNat && c.toNat ≤ 13

/-- The bytes of pairs of digits between white space, or the position that is none of them. -/
def readPairs : Nat → List Char → Except Nat (List UInt8)
  | _, [] => .ok []
  | position, [c] =>
      if isSpace c then .ok []
      else .error (if (hexValue? c).isSome then position + 1 else position)
  | position, c :: d :: rest =>
      if isSpace c then readPairs (position + 1) (d :: rest)
      else
        match hexValue? c, hexValue? d with
        | some high, some low =>
            (readPairs (position + 2) rest).map fun data => UInt8.ofNat (16 * high + low) :: data
        | some _, none => .error (position + 1)
        | none, _ => .error position

/-- `bytes.fromhex`, with the position of the first character that it does not accept. -/
def fromHex (text : String) : Except Nat (List UInt8) :=
  match text.toList.findIdx? fun c => 128 ≤ c.toNat with
  | some position => .error position
  | none => readPairs 0 text.toList

theorem hexDigit_spec : ∀ n < 16, hexValue? (hexDigit n) = some n ∧ isSpace (hexDigit n) = false ∧
    (hexDigit n).toNat < 128 := by
  decide

theorem readPairs_hexPair (data : List UInt8) (position : Nat) :
    readPairs position (data.flatMap hexPair) = .ok data := by
  induction data generalizing position with
  | nil => rfl
  | cons byte rest ih =>
      have hbyte : byte.toNat < 256 := byte.toNat_lt
      obtain ⟨hhigh, hspace, -⟩ := hexDigit_spec (byte.toNat / 16) (by omega)
      obtain ⟨hlow, -, -⟩ := hexDigit_spec (byte.toNat % 16) (by omega)
      have hjoin : 16 * (byte.toNat / 16) + byte.toNat % 16 = byte.toNat := by omega
      rw [List.flatMap_cons, hexPair, List.cons_append, List.cons_append, List.nil_append,
        readPairs, hspace, if_neg Bool.false_ne_true, hhigh, hlow, ih]
      simp only [Except.map, hjoin, UInt8.ofNat_toNat]

/-- Bytes are read back from their text. -/
theorem fromHex_hex (data : List UInt8) : fromHex (hex data) = .ok data := by
  have hascii : ∀ c ∈ data.flatMap hexPair, c.toNat < 128 := by
    intro c hc
    obtain ⟨byte, -, hc⟩ := List.mem_flatMap.mp hc
    have hbyte : byte.toNat < 256 := byte.toNat_lt
    rcases List.mem_cons.mp hc with rfl | hc
    · exact (hexDigit_spec _ (by omega)).2.2
    · obtain rfl := List.mem_singleton.mp hc
      exact (hexDigit_spec _ (by omega)).2.2
  have hnone : (data.flatMap hexPair).findIdx? (fun c => 128 ≤ c.toNat) = none := by
    rw [List.findIdx?_eq_none_iff]
    intro c hc
    have hc := hascii c hc
    simp only [decide_eq_false_iff_not]
    omega
  rw [fromHex, hex, String.toList_ofList, hnone]
  exact readPairs_hexPair data 0

/-! ## Integers -/

/-- Where the ten decimal digits of each script start. -/
def decimalZeros : List Nat :=
  [0x30, 0x660, 0x6F0, 0x7C0, 0x966, 0x9E6, 0xA66, 0xAE6, 0xB66, 0xBE6, 0xC66, 0xCE6, 0xD66, 0xDE6,
    0xE50, 0xED0, 0xF20, 0x1040, 0x1090, 0x17E0, 0x1810, 0x1946, 0x19D0, 0x1A80, 0x1A90, 0x1B50,
    0x1BB0, 0x1C40, 0x1C50, 0xA620, 0xA8D0, 0xA900, 0xA9D0, 0xA9F0, 0xAA50, 0xABF0, 0xFF10,
    0x104A0, 0x10D30, 0x11066, 0x110F0, 0x11136, 0x111D0, 0x112F0, 0x11450, 0x114D0, 0x11650,
    0x116C0, 0x11730, 0x118E0, 0x11950, 0x11C50, 0x11D50, 0x11DA0, 0x16A60, 0x16AC0, 0x16B50,
    0x1D7CE, 0x1D7D8, 0x1D7E2, 0x1D7EC, 0x1D7F6, 0x1E140, 0x1E2F0, 0x1E950, 0x1FBF0]

/-- The white space beyond ASCII. -/
def wideSpaces : List Nat :=
  [0x85, 0xA0, 0x1680, 0x2000, 0x2001, 0x2002, 0x2003, 0x2004, 0x2005, 0x2006, 0x2007, 0x2008,
    0x2009, 0x200A, 0x2028, 0x2029, 0x202F, 0x205F, 0x3000]

/-- The decimal digits and the white space of all scripts in ASCII. -/
def toAscii (c : Char) : Char :=
  if c.toNat < 127 then c
  else if c.toNat ∈ wideSpaces then ' '
  else
    match decimalZeros.find? fun start => start ≤ c.toNat && c.toNat < start + 10 with
    | some start => Char.ofNat (48 + (c.toNat - start))
    | none => '?'

/-- A text without the white space at its ends. -/
def strip (text : List Char) : List Char :=
  ((text.dropWhile isSpace).reverse.dropWhile isSpace).reverse

/-- The digits of a base, with single underscores between them. -/
def readDigits (base : Nat) : List Char → Option (List Nat)
  | [] => none
  | [c] => (digit c).map fun d => [d]
  | c :: '_' :: rest => (digit c).bind fun d => (readDigits base rest).map fun ds => d :: ds
  | c :: rest => (digit c).bind fun d => (readDigits base rest).map fun ds => d :: ds
where
  digit (c : Char) : Option Nat := (hexValue? c).filter fun d => d < base

/-- The base that the prefix of a text announces, and the text after it. -/
def announced : List Char → Option (Nat × List Char)
  | '0' :: mark :: rest =>
      let base? := match mark.toLower with
        | 'x' => some 16
        | 'o' => some 8
        | 'b' => some 2
        | _ => none
      base?.map fun base =>
        (base, match rest with
          | '_' :: rest => rest
          | rest => rest)
  | _ => none

/-- The digits of an unsigned integer and their base, which `0` leaves to the text itself. Without
a prefix only zero may then start with a zero. -/
def readUnsigned (base : Nat) (text : List Char) : Option (Nat × List Nat) :=
  if base = 0 then
    match announced text with
    | some (base, rest) => (readDigits base rest).map fun ds => (base, ds)
    | none =>
        (readDigits 10 text).bind fun ds =>
          if ds.head? = some 0 ∧ ds.any (· ≠ 0) then none else some (10, ds)
  else (readDigits base text).map fun ds => (base, ds)

/-- The sign of a text, and the rest of it. -/
def readSign : List Char → Int × List Char
  | '-' :: rest => (-1, rest)
  | '+' :: rest => (1, rest)
  | text => (1, text)

/-- The longest decimal text that is converted. -/
def maxDigits : Nat := 4300

/-- The ranges of the characters that are assigned and not printed: controls, format characters,
private use, and the separators other than the space. -/
def unprintable : List (Nat × Nat) :=
  [(0, 0x1F), (0x7F, 0xA0), (0xAD, 0xAD), (0x600, 0x605), (0x61C, 0x61C), (0x6DD, 0x6DD),
    (0x70F, 0x70F), (0x890, 0x891), (0x8E2, 0x8E2), (0x1680, 0x1680), (0x180E, 0x180E),
    (0x2000, 0x200F), (0x2028, 0x202F), (0x205F, 0x2064), (0x2066, 0x206F), (0x3000, 0x3000),
    (0xE000, 0xF8FF), (0xFEFF, 0xFEFF), (0xFFF9, 0xFFFB), (0x110BD, 0x110BD), (0x110CD, 0x110CD),
    (0x13430, 0x1343F), (0x1BCA0, 0x1BCA3), (0x1D173, 0x1D17A), (0xE0001, 0xE0001),
    (0xE0020, 0xE007F), (0xF0000, 0xFFFFD), (0x100000, 0x10FFFD)]

def isPrintable (c : Char) : Bool :=
  !unprintable.any fun range => range.1 ≤ c.toNat && c.toNat ≤ range.2

/-- A number in lower-case hexadecimal digits of some width. -/
def lowerHex : Nat → Nat → List Char
  | 0, _ => []
  | width + 1, n => lowerHex width (n / 16) ++ [(hexDigit (n % 16)).toLower]

/-- The escape of a character that is not printed, by its size. -/
def escaped (c : Char) : List Char :=
  let n := c.toNat
  if n < 256 then '\\' :: 'x' :: lowerHex 2 n
  else if n < 65536 then '\\' :: 'u' :: lowerHex 4 n
  else '\\' :: 'U' :: lowerHex 8 n

/-- A text in quotes, as an error message shows it. -/
def quote (text : String) : String :=
  let mark := if '\'' ∈ text.toList ∧ '"' ∉ text.toList then '"' else '\''
  let escape (c : Char) : List Char :=
    if c = mark ∨ c = '\\' then ['\\', c]
    else if c = '\n' then ['\\', 'n']
    else if c = '\r' then ['\\', 'r']
    else if c = '\t' then ['\\', 't']
    else if isPrintable c then [c]
    else escaped c
  String.ofList (mark :: text.toList.flatMap escape ++ [mark])

/-- `int(text, base)`, for base 10 or 0, with the text of its error. -/
def readInt (base : Nat) (text : String) : Except String Int :=
  let (sign, rest) := readSign (strip (text.toList.map toAscii))
  match readUnsigned base rest with
  | none => .error ("invalid literal for int() with base " ++ toString base ++ ": " ++ quote text)
  | some (base, ds) =>
      if base = 10 ∧ maxDigits < ds.length then
        .error ("Exceeds the limit (" ++ toString maxDigits ++
          " digits) for integer string conversion: value has " ++ toString ds.length ++
          " digits; use sys.set_int_max_str_digits() to increase the limit")
      else .ok (sign * (ds.foldl (fun n d => base * n + d) 0 : Nat))

/-- `format(n, "0<width>X")`: the sign counts as one of the characters. -/
def formatHex (width : Nat) (n : Int) : String :=
  let digits := (Nat.toDigits 16 n.natAbs).map Char.toUpper
  let sign := if n < 0 then ['-'] else []
  String.ofList
    (sign ++ List.replicate (width - (sign.length + digits.length)) '0' ++ digits)

end Text
