import Tekmar482.Library.Text
import Mathlib.Data.List.Basic
import Mathlib.Data.List.TakeWhile

/-!
# Numerals and separators in text

The decimal text of an integer and the hexadecimal text of a number are read back as what they
were written from. A text is split at the first or at the last of its separators.
-/

namespace Text

/-! ## The digits of a number -/

/-- The number that digits denote in a base. -/
def ofDigits (base : Nat) (ds : List Nat) : Nat := ds.foldl (fun n d => base * n + d) 0

theorem ofDigits_concat (base : Nat) (ds : List Nat) (d : Nat) :
    ofDigits base (ds ++ [d]) = base * ofDigits base ds + d := by
  simp only [ofDigits, List.foldl_append, List.foldl_cons, List.foldl_nil]

theorem ofDigits_zeros (base count : Nat) (ds : List Nat) :
    ofDigits base (List.replicate count 0 ++ ds) = ofDigits base ds := by
  have hzeros : (List.replicate count 0).foldl (fun n d => base * n + d) 0 = 0 := by
    induction count with
    | zero => rfl
    | succ count ih =>
        rw [List.replicate_succ, List.foldl_cons, Nat.mul_zero, Nat.add_zero, ih]
  rw [ofDigits, List.foldl_append, hzeros, ofDigits]

/-- The digits with which a number is written. Only zero starts with a zero. -/
structure Writes (base n : Nat) (ds : List Nat) : Prop where
  chars : Nat.toDigits base n = ds.map Nat.digitChar
  lt : ∀ d ∈ ds, d < base
  value : ofDigits base ds = n
  leading : ds.head? = some 0 → ds = [0]
  nonempty : ds ≠ []

theorem exists_writes {base : Nat} (hbase : 1 < base) (n : Nat) : ∃ ds, Writes base n ds := by
  induction n using Nat.strongRecOn with
  | ind n ih =>
      by_cases hn : n < base
      · refine ⟨[n], ?_, ?_, ?_, ?_, List.cons_ne_nil _ _⟩
        · rw [Nat.toDigits_of_lt_base hn, List.map_singleton]
        · intro d hd
          rw [List.mem_singleton.mp hd]
          exact hn
        · rw [ofDigits, List.foldl_cons, Nat.mul_zero, Nat.zero_add, List.foldl_nil]
        · intro h
          rw [Option.some.inj h]
      · have hge : base ≤ n := Nat.le_of_not_lt hn
        obtain ⟨ds, h⟩ := ih (n / base) (Nat.div_lt_self (by omega) hbase)
        have hpos : 0 < n / base := Nat.div_pos hge (by omega)
        refine ⟨ds ++ [n % base], ?_, ?_, ?_, ?_, ?_⟩
        · rw [Nat.toDigits_of_base_le hbase hge, h.chars, List.map_append, List.map_singleton]
        · intro d hd
          rcases List.mem_append.mp hd with hd | hd
          · exact h.lt d hd
          · rw [List.mem_singleton.mp hd]
            exact Nat.mod_lt n (by omega)
        · rw [ofDigits_concat, h.value, Nat.div_add_mod]
        · intro hhead
          rw [List.head?_append_of_ne_nil _ h.nonempty] at hhead
          have hzero := h.value
          rw [h.leading hhead, ofDigits, List.foldl_cons, Nat.mul_zero, List.foldl_nil] at hzero
          omega
        · exact List.append_ne_nil_of_left_ne_nil h.nonempty _

/-! ## Digits are read back -/

/-- A way to write the digits of a base. -/
def Legible (base : Nat) (write : Nat → Char) : Prop :=
  ∀ d < base, hexValue? (write d) = some d ∧ write d ≠ '_'

theorem legible_digitChar : Legible 10 Nat.digitChar := by
  unfold Legible
  decide

theorem legible_toUpper : Legible 16 fun d => (Nat.digitChar d).toUpper := by
  unfold Legible
  decide

theorem readDigits_cons {base : Nat} (c : Char) {next : Char} {rest : List Char}
    (h : next ≠ '_') :
    readDigits base (c :: next :: rest) =
      (readDigits.digit base c).bind fun d =>
        (readDigits base (next :: rest)).map fun ds => d :: ds := by
  rw [readDigits]
  · exact List.cons_ne_nil next rest
  · intro tail htail
    exact h (List.cons.inj htail).1

theorem readDigits_map {base : Nat} {write : Nat → Char} (hwrite : Legible base write)
    {ds : List Nat} (hds : ∀ d ∈ ds, d < base) (hne : ds ≠ []) :
    readDigits base (ds.map write) = some ds := by
  have hdigit (d : Nat) (hd : d < base) : readDigits.digit base (write d) = some d := by
    rw [readDigits.digit, (hwrite d hd).1, Option.filter_some, if_pos (by simpa using hd)]
  induction ds with
  | nil => exact absurd rfl hne
  | cons d rest ih =>
      have hfirst := hdigit d (hds d List.mem_cons_self)
      cases rest with
      | nil => rw [List.map_singleton, readDigits, hfirst, Option.map_some]
      | cons next rest =>
          have hrest := ih (fun e he => hds e (List.mem_cons_of_mem _ he)) (List.cons_ne_nil _ _)
          have hnext := (hwrite next (hds next (by simp))).2
          rw [List.map_cons, List.map_cons, readDigits_cons _ hnext, ← List.map_cons, hfirst, hrest]
          rfl

/-! ## Numerals are read back -/

/-- A character that stands for itself and does not belong to the white space. -/
def Plain (c : Char) : Prop := toAscii c = c ∧ isSpace c = false

theorem plain_of_lt {c : Char} (hlow : 32 < c.toNat) (hhigh : c.toNat < 127) : Plain c := by
  constructor
  · rw [toAscii, if_pos hhigh]
  · simp only [isSpace, Bool.or_eq_false_iff, decide_eq_false_iff_not, Bool.and_eq_false_iff]
    omega

theorem plain_digitChar {d : Nat} (h : d < 10) : Plain (Nat.digitChar d) := by
  have hcode := Nat.toNat_digitChar_of_lt_ten h
  exact plain_of_lt (by omega) (by omega)

theorem map_toAscii {text : List Char} (h : ∀ c ∈ text, Plain c) : text.map toAscii = text := by
  rw [List.map_congr_left (g := id) fun c hc => (h c hc).1, List.map_id]

theorem strip_of_plain {text : List Char} (h : ∀ c ∈ text, Plain c) : strip text = text := by
  have hkeep {text : List Char} (h : ∀ c ∈ text, Plain c) : text.dropWhile isSpace = text := by
    cases text with
    | nil => rfl
    | cons c rest =>
        rw [List.dropWhile_cons_of_neg]
        rw [(h c List.mem_cons_self).2]
        exact Bool.false_ne_true
  rw [strip, hkeep h, hkeep fun c hc => h c (List.mem_reverse.mp hc), List.reverse_reverse]

theorem announced_of_writes {n : Nat} {ds : List Nat} (h : Writes 10 n ds) :
    announced (ds.map Nat.digitChar) = none := by
  have hzero : ∀ d < 10, Nat.digitChar d = '0' → d = 0 := by decide
  rcases ds with _ | ⟨d, _ | ⟨e, rest⟩⟩
  · rfl
  · rw [List.map_singleton, announced]
    intro mark tail htail
    exact List.cons_ne_nil mark tail (List.cons.inj htail).2.symm
  · have hd : Nat.digitChar d ≠ '0' := by
      intro hchar
      have hfirst := hzero d (h.lt d List.mem_cons_self) hchar
      have hsingle := h.leading (by rw [List.head?_cons, hfirst])
      cases hsingle
    rw [List.map_cons, announced]
    intro mark tail htail
    exact hd (List.cons.inj htail).1

/-- The digits of a number are read in base 10, also where the text is to announce its base. -/
theorem readUnsigned_of_writes {base n : Nat} {ds : List Nat} (hbase : base = 0 ∨ base = 10)
    (h : Writes 10 n ds) : readUnsigned base (ds.map Nat.digitChar) = some (10, ds) := by
  have hread := readDigits_map legible_digitChar h.lt h.nonempty
  rcases hbase with rfl | rfl
  · have hzero : ¬ (ds.head? = some 0 ∧ ds.any (· ≠ 0) = true) := by
      rintro ⟨hhead, hany⟩
      rw [h.leading hhead] at hany
      exact absurd hany (by decide)
    rw [readUnsigned, if_pos rfl, announced_of_writes h, hread, Option.bind_some, if_neg hzero]
  · rw [readUnsigned, if_neg (by decide), hread, Option.map_some]

theorem toList_toString_int (z : Int) :
    (toString z).toList = (if z < 0 then ['-'] else []) ++ Nat.toDigits 10 z.natAbs := by
  rw [Int.toString_eq_repr, Int.repr_eq_if]
  by_cases hneg : z < 0
  · have habs : (-z).toNat = z.natAbs := by omega
    rw [if_neg (by omega), if_pos hneg, String.toList_append, Nat.toList_repr, habs]
    rfl
  · have habs : z.toNat = z.natAbs := by omega
    rw [if_pos (by omega), if_neg hneg, Nat.toList_repr, habs, List.nil_append]

theorem isDigit_of_mem_toString {z : Int} (hz : 0 ≤ z) {c : Char} (h : c ∈ (toString z).toList) :
    c.isDigit = true := by
  rw [toList_toString_int, if_neg (by omega), List.nil_append] at h
  exact Nat.isDigit_of_mem_toDigits (by decide) (by decide) h

theorem readSign_digits {ds : List Nat} (h : ∀ d ∈ ds, d < 10) :
    readSign (ds.map Nat.digitChar) = (1, ds.map Nat.digitChar) := by
  have hsign : ∀ d < 10, Nat.digitChar d ≠ '-' ∧ Nat.digitChar d ≠ '+' := by decide
  cases ds with
  | nil => rfl
  | cons d rest =>
      obtain ⟨hminus, hplus⟩ := hsign d (h d List.mem_cons_self)
      rw [List.map_cons, readSign]
      · intro tail htail
        exact hminus (List.cons.inj htail).1
      · intro tail htail
        exact hplus (List.cons.inj htail).1

/-- The text of an integer is read back in base 10, and in the base that it announces itself. -/
theorem readInt_toString {base : Nat} (hbase : base = 0 ∨ base = 10) {z : Int}
    (h : (Nat.toDigits 10 z.natAbs).length ≤ maxDigits) : readInt base (toString z) = .ok z := by
  obtain ⟨ds, hds⟩ := exists_writes (by decide : 1 < 10) z.natAbs
  have hlength : ds.length ≤ maxDigits := by
    rw [← List.length_map Nat.digitChar, ← hds.chars]
    exact h
  have hchars := toList_toString_int z
  rw [hds.chars] at hchars
  have hplain : ∀ c ∈ (toString z).toList, Plain c := by
    rw [hchars]
    intro c hc
    rcases List.mem_append.mp hc with hc | hc
    · split at hc
      · rw [List.mem_singleton.mp hc]
        exact plain_of_lt (by decide) (by decide)
      · exact absurd hc List.not_mem_nil
    · obtain ⟨d, hd, rfl⟩ := List.mem_map.mp hc
      exact plain_digitChar (hds.lt d hd)
  have hread : readSign (toString z).toList = (if z < 0 then -1 else 1, ds.map Nat.digitChar) := by
    rw [hchars]
    split
    · rfl
    · exact readSign_digits hds.lt
  have hvalue : (if z < 0 then -1 else 1) * (z.natAbs : Int) = z := by
    split
    · omega
    · omega
  have hnumber := hds.value
  rw [ofDigits] at hnumber
  simp only [readInt, map_toAscii hplain, strip_of_plain hplain, hread,
    readUnsigned_of_writes hbase hds, hnumber, hvalue]
  rw [if_neg fun hlong => Nat.not_lt.mpr hlength hlong.2]

theorem announced_hex {ds : List Nat} (h : ∀ d ∈ ds, d < 16) (hne : ds ≠ []) :
    announced ('0' :: 'x' :: ds.map fun d => (Nat.digitChar d).toUpper) =
      some (16, ds.map fun d => (Nat.digitChar d).toUpper) := by
  cases ds with
  | nil => exact absurd rfl hne
  | cons d rest =>
      have hd := (legible_toUpper d (h d List.mem_cons_self)).2
      have hx : 'x'.toLower = 'x' := by decide
      simp only [announced, hx, Option.map_some, List.map_cons]
      split
      · rename_i tail htail
        exact absurd (List.cons.inj htail).1 hd
      · rfl

/-- The digits of a hexadecimal text, which may start with zeros. -/
theorem exists_formatHex (width : Nat) {n : Int} (h : 0 ≤ n) :
    ∃ ds, ("0x" ++ formatHex width n).toList =
        '0' :: 'x' :: (ds.map fun d => (Nat.digitChar d).toUpper) ∧
      (∀ d ∈ ds, d < 16) ∧ ds ≠ [] ∧ ofDigits 16 ds = n.natAbs := by
  obtain ⟨ds, hds⟩ := exists_writes (by decide : 1 < 16) n.natAbs
  refine ⟨List.replicate (width - ds.length) 0 ++ ds, ?_, ?_, ?_, ?_⟩
  · rw [String.toList_append, formatHex, String.toList_ofList, String.toList_ofList,
      if_neg (by omega), hds.chars, List.map_map, List.length_map, List.map_append,
      List.map_replicate, List.nil_append, List.length_nil, Nat.zero_add]
    rfl
  · intro d hd
    rcases List.mem_append.mp hd with hd | hd
    · rw [List.eq_of_mem_replicate hd]
      decide
    · exact hds.lt d hd
  · exact List.append_ne_nil_of_right_ne_nil _ hds.nonempty
  · rw [ofDigits_zeros, hds.value]

theorem plain_formatHex (width : Nat) {n : Int} (h : 0 ≤ n) :
    ∀ c ∈ ("0x" ++ formatHex width n).toList, Plain c := by
  have hupper : ∀ d < 16, 32 < (Nat.digitChar d).toUpper.toNat ∧
      (Nat.digitChar d).toUpper.toNat < 127 := by decide
  obtain ⟨ds, hchars, hlt, -, -⟩ := exists_formatHex width h
  rw [hchars]
  intro c hc
  rcases List.mem_cons.mp hc with rfl | hc
  · exact plain_of_lt (by decide) (by decide)
  rcases List.mem_cons.mp hc with rfl | hc
  · exact plain_of_lt (by decide) (by decide)
  obtain ⟨d, hd, rfl⟩ := List.mem_map.mp hc
  exact plain_of_lt (hupper d (hlt d hd)).1 (hupper d (hlt d hd)).2

/-- The hexadecimal text of a number is read back in the base that it announces. -/
theorem readInt_formatHex (width : Nat) {n : Int} (h : 0 ≤ n) :
    readInt 0 ("0x" ++ formatHex width n) = .ok n := by
  have hplain := plain_formatHex width h
  obtain ⟨ds, hchars, hlt, hne, hvalue⟩ := exists_formatHex width h
  have hread := readDigits_map legible_toUpper hlt hne
  have hunsigned : readUnsigned 0 ("0x" ++ formatHex width n).toList = some (16, ds) := by
    rw [hchars, readUnsigned, if_pos rfl, announced_hex hlt hne]
    simp only [hread, Option.map_some]
  have hsign : readSign ("0x" ++ formatHex width n).toList =
      (1, ("0x" ++ formatHex width n).toList) := by
    rw [hchars]
    rfl
  rw [ofDigits] at hvalue
  simp only [readInt, map_toAscii hplain, strip_of_plain hplain, hsign, hunsigned, hvalue]
  rw [if_neg fun hlong => absurd hlong.1 (by decide), Int.one_mul, Int.natAbs_of_nonneg h]

/-! ## White space of all scripts -/

/-- The white space that `str.strip` removes. -/
def isWhite (c : Char) : Bool :=
  isSpace c || 28 ≤ c.toNat && c.toNat ≤ 31 || wideSpaces.contains c.toNat

/-- A text without the white space of any script at its ends. -/
def stripWhite (text : List Char) : List Char :=
  ((text.dropWhile isWhite).reverse.dropWhile isWhite).reverse

theorem mem_dropWhile {p : Char → Bool} {c : Char} (hc : p c = false) {text : List Char}
    (h : c ∈ text) : c ∈ text.dropWhile p := by
  rw [← List.takeWhile_append_dropWhile (p := p) (l := text)] at h
  rcases List.mem_append.mp h with htake | hdrop
  · rw [List.mem_takeWhile_imp htake] at hc
    cases hc
  · exact hdrop

theorem mem_stripWhite {c : Char} (hc : isWhite c = false) {text : List Char} (h : c ∈ text) :
    c ∈ stripWhite text :=
  List.mem_reverse.mpr (mem_dropWhile hc (List.mem_reverse.mpr (mem_dropWhile hc h)))

theorem isWhite_of_isDigit {c : Char} (h : c.isDigit = true) : isWhite c = false := by
  obtain ⟨hlow, hhigh⟩ := Char.isDigit_iff_toNat.mp h
  have hzero : '0'.toNat = 48 := rfl
  have hnine : '9'.toNat = 57 := rfl
  have hspace := (plain_of_lt (c := c) (by omega) (by omega)).2
  have hwide : ∀ n ∈ wideSpaces, 58 ≤ n := by decide
  have hnot : wideSpaces.contains c.toNat = false := by
    rw [Bool.eq_false_iff, Ne, List.contains_iff_mem]
    intro hmem
    have hge := hwide _ hmem
    omega
  have hseparator : (decide (28 ≤ c.toNat) && decide (c.toNat ≤ 31)) = false := by
    rw [Bool.and_eq_false_iff, decide_eq_false_iff_not, decide_eq_false_iff_not]
    omega
  rw [isWhite, hspace, hseparator, hnot]
  rfl

theorem toLower_of_isDigit {c : Char} (h : c.isDigit = true) : c.toLower = c := by
  have hhigh := (Char.isDigit_iff_toNat.mp h).2
  have hnine : '9'.toNat = 57 := rfl
  have hupper : ¬ (c.val ≥ 'A'.val ∧ c.val ≤ 'Z'.val) := by
    rintro ⟨hge, -⟩
    have hge : 65 ≤ c.toNat := UInt32.le_iff_toNat_le.mp hge
    omega
  exact dif_neg hupper

/-! ## Separators -/

/-- The text before and after the first separator. -/
def partition (separator : Char) : List Char → Option (List Char × List Char)
  | [] => none
  | c :: rest =>
      if c = separator then some ([], rest)
      else (partition separator rest).map fun (before, after) => (c :: before, after)

theorem partition_append {separator : Char} {before : List Char} (h : separator ∉ before)
    (after : List Char) :
    partition separator (before ++ separator :: after) = some (before, after) := by
  induction before with
  | nil => rw [List.nil_append, partition, if_pos rfl]
  | cons c rest ih =>
      have hc : c ≠ separator := fun hc => h (hc ▸ List.mem_cons_self)
      have hrest : separator ∉ rest := fun hmem => h (List.mem_cons_of_mem _ hmem)
      rw [List.cons_append, partition, if_neg hc, ih hrest, Option.map_some]

theorem partition_eq_some_iff {separator : Char} {text before after : List Char} :
    partition separator text = some (before, after) ↔
      text = before ++ separator :: after ∧ separator ∉ before := by
  constructor
  · intro h
    induction text generalizing before with
    | nil => cases h
    | cons c rest ih =>
        rw [partition] at h
        split at h
        · rename_i hc
          cases h
          exact ⟨by rw [hc, List.nil_append], List.not_mem_nil⟩
        · rename_i hc
          obtain ⟨⟨start, tail⟩, hrest, heq⟩ := Option.map_eq_some_iff.mp h
          cases heq
          obtain ⟨hsplit, hnot⟩ := ih hrest
          refine ⟨by rw [hsplit, List.cons_append], fun hmem => ?_⟩
          rcases List.mem_cons.mp hmem with hmem | hmem
          · exact hc hmem.symm
          · exact hnot hmem
  · rintro ⟨rfl, hnot⟩
    exact partition_append hnot after

/-- Texts that go on after a first part of their own kind have the same first parts if they are
the same. -/
theorem append_unique {p : Char → Bool} {a a' b b' : List Char} (ha : ∀ c ∈ a, p c = true)
    (ha' : ∀ c ∈ a', p c = true) (hb : ∀ c ∈ b.head?, p c = false)
    (hb' : ∀ c ∈ b'.head?, p c = false) (h : a ++ b = a' ++ b') : a = a' ∧ b = b' := by
  have htake {a b : List Char} (ha : ∀ c ∈ a, p c = true) (hb : ∀ c ∈ b.head?, p c = false) :
      (a ++ b).takeWhile p = a := by
    rw [List.takeWhile_append_of_pos ha]
    cases b with
    | nil => rw [List.takeWhile_nil, List.append_nil]
    | cons c rest =>
        have hc : ¬ p c = true := by
          rw [hb c rfl]
          exact Bool.false_ne_true
        rw [List.takeWhile_cons_of_neg hc, List.append_nil]
  have hfirst := htake ha hb
  rw [h, htake ha' hb'] at hfirst
  obtain rfl := hfirst
  exact ⟨rfl, List.append_cancel_left h⟩

end Text
