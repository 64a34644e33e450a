import JsonTyping.Predicate
import Mathlib.Data.List.Basic

/-!
# Texts of random UUIDs

A UUID may be written in four forms. One of them is taken for the text of a random UUID, namely five
groups of digits with hyphens between them and nothing around them, in which two digits are fixed up
to the two lower bits of the second one (`Predicate.uuidV4_test_iff`).

The other forms are kept out by the size alone, which is counted in octets. With something around
the groups the text is longer (`Uuid.ofGroups?_of_ofText?`), and without hyphens it is shorter,
since digits take one octet each. What the groups are read as is octets again, so the two fixed
digits are the upper halves of two octets.
-/

namespace JsonTyping

/-! ### Octets of a text -/

theorem utf8ByteSize_ofList_cons (c : Char) (cs : List Char) :
    (String.ofList (c :: cs)).utf8ByteSize = c.utf8Size + (String.ofList cs).utf8ByteSize := by
  have first : String.ofList (c :: cs) = String.singleton c ++ String.ofList cs := by
    rw [String.singleton_eq_ofList, ← String.ofList_append, List.singleton_append]
  rw [first, String.utf8ByteSize_append, String.utf8ByteSize_singleton]

/-- Every character takes an octet at least. -/
theorem length_le_utf8ByteSize (cs : List Char) : cs.length ≤ (String.ofList cs).utf8ByteSize := by
  induction cs with
  | nil => exact Nat.le_refl 0
  | cons c cs ih =>
    have := c.utf8Size_pos
    rw [List.length_cons, utf8ByteSize_ofList_cons]
    omega

theorem utf8ByteSize_eq_length {cs : List Char} (single : ∀ c ∈ cs, c.utf8Size = 1) :
    (String.ofList cs).utf8ByteSize = cs.length := by
  induction cs with
  | nil => rfl
  | cons c cs ih =>
    obtain ⟨first, others⟩ := List.forall_mem_cons.1 single
    rw [utf8ByteSize_ofList_cons, first, ih others, List.length_cons, Nat.add_comm]

/-! ### Hexadecimal digits -/

/-- The hexadecimal digits of either case. -/
def hexDigits : List Char :=
  ['0', '1', '2', '3', '4', '5', '6', '7', '8', '9', 'a', 'b', 'c', 'd', 'e', 'f',
    'A', 'B', 'C', 'D', 'E', 'F']

/-- The digits whose two upper bits are `10`. -/
def variantDigits : List Char := ['8', '9', 'a', 'b', 'A', 'B']

theorem isSome_hexDigit?_of_mem {c : Char} (mem : c ∈ hexDigits) :
    (hexDigit? c).isSome = true := by
  have table : hexDigits.all (fun c ↦ (hexDigit? c).isSome) = true := by decide
  exact List.all_eq_true.1 table c mem

theorem utf8Size_of_mem_hexDigits {c : Char} (mem : c ∈ hexDigits) : c.utf8Size = 1 := by
  have table : hexDigits.all (fun c ↦ c.utf8Size == 1) = true := by decide
  exact beq_iff_eq.1 (List.all_eq_true.1 table c mem)

theorem mem_hexDigits_of_eq_some {c : Char} {n : Nat} (h : hexDigit? c = some n) :
    c ∈ hexDigits := by
  have range : '0'.toNat ≤ c.toNat ∧ c.toNat ≤ '9'.toNat ∨
      'a'.toNat ≤ c.toNat ∧ c.toNat ≤ 'f'.toNat ∨ 'A'.toNat ≤ c.toNat ∧ c.toNat ≤ 'F'.toNat := by
    rw [hexDigit?] at h
    split_ifs at h with digit lower upper
    · exact .inl (Char.isDigit_iff_toNat.1 digit)
    · exact .inr (.inl lower)
    · exact .inr (.inr upper)
  -- the codes of the digits are three ranges, and a character is known by its code
  have code : c.toNat ∈ hexDigits.map Char.toNat := by
    have codes : hexDigits.map Char.toNat =
        List.range' 48 10 ++ List.range' 97 6 ++ List.range' 65 6 := by decide
    rw [codes, List.mem_append, List.mem_append, List.mem_range'_1, List.mem_range'_1,
      List.mem_range'_1]
    simp only [Char.reduceToNat] at range
    omega
  obtain ⟨d, mem, same⟩ := List.mem_map.1 code
  rwa [← Char.toNat_inj.1 same]

/-- What is to be known of the value of a digit. -/
theorem value_of_hexDigit? {c : Char} {n : Nat} (h : hexDigit? c = some n) :
    n < 16 ∧ (n = 4 ↔ c = '4') ∧ (n / 4 = 2 ↔ c ∈ variantDigits) := by
  have table : hexDigits.all (fun c ↦ decide (∀ n ∈ hexDigit? c,
      n < 16 ∧ (n = 4 ↔ c = '4') ∧ (n / 4 = 2 ↔ c ∈ variantDigits))) = true := by decide
  have row := List.all_eq_true.1 table c (mem_hexDigits_of_eq_some h)
  exact of_decide_eq_true row n h

namespace Uuid

variable {cs : List Char} {octets : List UInt8} {u : Uuid}

/-! ### Pairs of digits -/

/-- A pair of digits is read as one octet. -/
theorem readOctets?_cons_eq_some_iff {a b : Char} {rest : List Char} :
    readOctets? (a :: b :: rest) = some octets ↔
      ∃ high low others, hexDigit? a = some high ∧ hexDigit? b = some low ∧
        readOctets? rest = some others ∧ octets = UInt8.ofNat (16 * high + low) :: others := by
  simp only [readOctets?, Option.bind_eq_bind, Option.bind_eq_some_iff, Option.some_inj]
  constructor
  · rintro ⟨high, first, low, second, others, read, rfl⟩
    exact ⟨high, low, others, first, second, read, rfl⟩
  · rintro ⟨high, low, others, first, second, read, rfl⟩
    exact ⟨high, first, low, second, others, read, rfl⟩

/-- Octets are read from digits only, two for each of them. -/
theorem digits_of_readOctets? (read : readOctets? cs = some octets) :
    cs.length = 2 * octets.length ∧ ∀ c ∈ cs, c ∈ hexDigits := by
  fun_induction readOctets? cs generalizing octets with
  | case1 =>
    cases read
    exact ⟨rfl, nofun⟩
  | case2 => cases read
  | case3 a b rest ih =>
    obtain ⟨high, low, others, first, second, later, rfl⟩ := readOctets?_cons_eq_some_iff.1 read
    obtain ⟨length, digits⟩ := ih later
    refine ⟨?_, List.forall_mem_cons.2 ⟨mem_hexDigits_of_eq_some first,
      List.forall_mem_cons.2 ⟨mem_hexDigits_of_eq_some second, digits⟩⟩⟩
    simp only [List.length_cons, length]
    omega

/-- Digits in pairs are read. -/
theorem exists_readOctets? {n : Nat} (length : cs.length = 2 * n)
    (digits : ∀ c ∈ cs, c ∈ hexDigits) :
    ∃ octets, readOctets? cs = some octets ∧ octets.length = n := by
  fun_induction readOctets? cs generalizing n with
  | case1 =>
    have none : n = 0 := by
      rw [List.length_nil] at length
      omega
    exact ⟨[], rfl, none.symm⟩
  | case2 =>
    simp only [List.length_singleton] at length
    omega
  | case3 a b rest ih =>
    obtain ⟨a_mem, digits⟩ := List.forall_mem_cons.1 digits
    obtain ⟨b_mem, digits⟩ := List.forall_mem_cons.1 digits
    obtain ⟨high, first⟩ := Option.isSome_iff_exists.1 (isSome_hexDigit?_of_mem a_mem)
    obtain ⟨low, second⟩ := Option.isSome_iff_exists.1 (isSome_hexDigit?_of_mem b_mem)
    simp only [List.length_cons] at length
    obtain ⟨others, read, count⟩ := ih (n := n - 1) (by omega) digits
    refine ⟨UInt8.ofNat (16 * high + low) :: others,
      readOctets?_cons_eq_some_iff.2 ⟨high, low, others, first, second, read, rfl⟩, ?_⟩
    rw [List.length_cons, count]
    omega

/-- The upper half of an octet is the value of the first digit of its pair. -/
theorem halves_of_readOctets? (read : readOctets? cs = some octets) {i : Nat} {octet : UInt8}
    (found : octets[i]? = some octet) :
    ∃ c high low, cs[2 * i]? = some c ∧ hexDigit? c = some high ∧ low < 16 ∧
      octet.toNat = 16 * high + low := by
  fun_induction readOctets? cs generalizing octets i with
  | case1 =>
    cases read
    cases found
  | case2 => cases read
  | case3 a b rest ih =>
    obtain ⟨high, low, others, first, second, later, rfl⟩ := readOctets?_cons_eq_some_iff.1 read
    cases i with
    | zero =>
      cases found
      have highBound := (value_of_hexDigit? first).1
      have lowBound := (value_of_hexDigit? second).1
      refine ⟨a, high, low, rfl, first, lowBound, ?_⟩
      rw [UInt8.toNat_ofNat']
      omega
    | succ i => exact ih later found

/-! ### The two fixed digits -/

theorem halves_of_octet (read : readOctets? cs = some u.octets) (position : Fin 16) :
    ∃ c high low, cs[2 * position.val]? = some c ∧ hexDigit? c = some high ∧ low < 16 ∧
      (u.octet position).toNat = 16 * high + low :=
  halves_of_readOctets? read (List.getElem?_eq_getElem _)

theorem version_eq_four_iff (read : readOctets? cs = some u.octets) :
    u.version = 4 ↔ cs[12]? = some '4' := by
  obtain ⟨c, high, low, found, value, bound, halves⟩ := halves_of_octet read 6
  have upper : u.version.toNat = high := by
    rw [version, UInt8.toNat_shiftRight, halves, Nat.shiftRight_eq_div_pow]
    simp only [UInt8.reduceToNat, Nat.reduceMod, Nat.reducePow]
    omega
  have four : high = 4 ↔ c = '4' := (value_of_hexDigit? value).2.1
  rw [← UInt8.toNat_inj, upper, show cs[12]? = some c from found, Option.some_inj]
  exact four

theorem isStandardVariant_iff (read : readOctets? cs = some u.octets) :
    u.isStandardVariant = true ↔ ∃ c ∈ variantDigits, cs[16]? = some c := by
  obtain ⟨c, high, low, found, value, bound, halves⟩ := halves_of_octet read 8
  have upper : (u.octet 8 >>> 6).toNat = high / 4 := by
    rw [UInt8.toNat_shiftRight, halves, Nat.shiftRight_eq_div_pow]
    simp only [UInt8.reduceToNat, Nat.reduceMod, Nat.reducePow]
    omega
  have two : high / 4 = 2 ↔ c ∈ variantDigits := (value_of_hexDigit? value).2.2
  rw [isStandardVariant, beq_iff_eq, ← UInt8.toNat_inj, upper, show cs[16]? = some c from found]
  simp only [Option.some_inj]
  refine two.trans ⟨fun mem ↦ ⟨c, mem, rfl⟩, ?_⟩
  rintro ⟨d, mem, rfl⟩
  exact mem

/-- Thirty-two digits, two of them as in a random UUID. -/
structure RandomDigits (cs : List Char) : Prop where
  length_eq : cs.length = 32
  digit : ∀ c ∈ cs, c ∈ hexDigits
  version : cs[12]? = some '4'
  variant : ∃ c ∈ variantDigits, cs[16]? = some c

theorem ofDigits?_eq_some_iff : ofDigits? cs = some u ↔ readOctets? cs = some u.octets := by
  simp only [ofDigits?, Option.bind_eq_bind, Option.bind_eq_some_iff]
  constructor
  · rintro ⟨octets, read, eq⟩
    split_ifs at eq with length
    cases eq
    exact read
  · intro read
    exact ⟨u.octets, read, dif_pos u.length_octets⟩

theorem randomDigits_iff :
    RandomDigits cs ↔ ∃ u, ofDigits? cs = some u ∧ u.version = 4 ∧ u.isStandardVariant = true := by
  constructor
  · intro random
    obtain ⟨octets, read, length⟩ := exists_readOctets? (n := 16) random.length_eq random.digit
    let u : Uuid := ⟨octets, length⟩
    have read : readOctets? cs = some u.octets := read
    exact ⟨u, ofDigits?_eq_some_iff.2 read, (version_eq_four_iff read).2 random.version,
      (isStandardVariant_iff read).2 random.variant⟩
  · rintro ⟨u, eq, version, variant⟩
    have read := ofDigits?_eq_some_iff.1 eq
    obtain ⟨length, digit⟩ := digits_of_readOctets? read
    rw [u.length_octets] at length
    exact ⟨length, digit, (version_eq_four_iff read).1 version,
      (isStandardVariant_iff read).1 variant⟩

/-! ### Groups -/

/-- The positions of the hyphens between the five groups. -/
def hyphenPlaces : List Nat := [8, 13, 18, 23]

/-- The digits of the five groups. -/
def groupDigits (cs : List Char) : List Char :=
  cs.take 8 ++ (cs.drop 9).take 4 ++ (cs.drop 14).take 4 ++ (cs.drop 19).take 4 ++ cs.drop 24

/-- Where a digit of the groups stands in the text. -/
def place (position : Nat) : Nat :=
  if position < 8 then position
  else if position < 12 then position + 1
  else if position < 16 then position + 2
  else if position < 20 then position + 3
  else position + 4

theorem length_groupDigits (length : cs.length = 36) : (groupDigits cs).length = 32 := by
  simp only [groupDigits, List.length_append, List.length_take, List.length_drop, length]
  rfl

theorem getElem?_take_append {n : Nat} (enough : n ≤ cs.length) (rest : List Char)
    (position : Nat) :
    (cs.take n ++ rest)[position]? =
      if position < n then cs[position]? else rest[position - n]? := by
  rw [List.getElem?_append, List.length_take, Nat.min_eq_left enough]
  split_ifs with first
  · exact List.getElem?_take_of_lt first
  · rfl

theorem getElem?_groupDigits (length : cs.length = 36) (position : Nat) :
    (groupDigits cs)[position]? = cs[place position]? := by
  have enough (n : Nat) (h : n + 4 ≤ 36) : 4 ≤ (cs.drop n).length := by
    rw [List.length_drop]
    omega
  simp only [groupDigits, List.append_assoc]
  rw [getElem?_take_append (by omega), getElem?_take_append (enough 9 (by omega)),
    getElem?_take_append (enough 14 (by omega)), getElem?_take_append (enough 19 (by omega))]
  simp only [List.getElem?_drop, place]
  split_ifs <;> congr 1 <;> omega

theorem place_valid : ∀ position < 32, place position < 36 ∧ place position ∉ hyphenPlaces := by
  decide

theorem exists_place :
    ∀ target < 36, target ∉ hyphenPlaces → ∃ position < 32, place position = target := by
  decide

/-- The text of a random UUID in five groups with hyphens between them. -/
structure HyphenatedV4 (cs : List Char) : Prop where
  length_eq : cs.length = 36
  hyphen : ∀ position ∈ hyphenPlaces, cs[position]? = some '-'
  digit : ∀ position < 36, position ∉ hyphenPlaces → ∃ c ∈ hexDigits, cs[position]? = some c
  version : cs[14]? = some '4'
  variant : ∃ c ∈ variantDigits, cs[19]? = some c

theorem hyphenatedV4_iff :
    HyphenatedV4 cs ↔ cs.length = 36 ∧ (∀ position ∈ hyphenPlaces, cs[position]? = some '-') ∧
      RandomDigits (groupDigits cs) := by
  constructor
  · intro text
    have group := getElem?_groupDigits text.length_eq
    refine ⟨text.length_eq, text.hyphen, length_groupDigits text.length_eq, ?_, ?_, ?_⟩
    · intro c mem
      obtain ⟨position, bound, found⟩ := List.mem_iff_getElem.1 mem
      rw [length_groupDigits text.length_eq] at bound
      obtain ⟨inside, digitPlace⟩ := place_valid position bound
      obtain ⟨d, digit, same⟩ := text.digit _ inside digitPlace
      rw [← group, List.getElem?_eq_some_iff] at same
      obtain ⟨_, rfl⟩ := same
      rwa [← found]
    · exact (group 12).trans text.version
    · obtain ⟨c, mem, found⟩ := text.variant
      exact ⟨c, mem, (group 16).trans found⟩
  · rintro ⟨length, hyphen, random⟩
    have group := getElem?_groupDigits length
    refine ⟨length, hyphen, ?_, ?_, ?_⟩
    · intro target inside digitPlace
      obtain ⟨position, bound, rfl⟩ := exists_place target inside digitPlace
      rw [← random.length_eq] at bound
      exact ⟨_, random.digit _ (List.getElem_mem bound),
        (group position).symm.trans (List.getElem?_eq_getElem bound)⟩
    · exact (group 12).symm.trans random.version
    · obtain ⟨c, mem, found⟩ := random.variant
      exact ⟨c, mem, (group 16).symm.trans found⟩

theorem ofGroups?_eq_some_iff :
    ofGroups? cs = some u ↔ cs.length = 36 ∧ (∀ position ∈ hyphenPlaces, cs[position]? = some '-') ∧
      ofDigits? (groupDigits cs) = some u := by
  rw [ofGroups?, Option.ite_none_right_eq_some, List.all_eq_true, and_assoc]
  simp only [beq_iff_eq]
  rfl

theorem hyphenatedV4_iff_ofGroups? :
    HyphenatedV4 cs ↔ ∃ u, ofGroups? cs = some u ∧ u.version = 4 ∧ u.isStandardVariant = true := by
  simp only [hyphenatedV4_iff, ofGroups?_eq_some_iff, randomDigits_iff, and_assoc, exists_and_left]

/-! ### Forms -/

theorem HyphenatedV4.utf8ByteSize_eq {s : String} (text : HyphenatedV4 s.toList) :
    s.utf8ByteSize = 36 := by
  rw [← text.length_eq, ← s.ofList_toList, String.toList_ofList]
  refine utf8ByteSize_eq_length fun c mem ↦ ?_
  obtain ⟨position, found⟩ := List.mem_iff_getElem?.1 mem
  have bound : position < 36 := text.length_eq ▸ (List.getElem?_eq_some_iff.1 found).1
  by_cases hyphenPlace : position ∈ hyphenPlaces
  · rw [text.hyphen position hyphenPlace, Option.some_inj] at found
    subst found
    rfl
  · obtain ⟨d, digit, same⟩ := text.digit position bound hyphenPlace
    rw [same, Option.some_inj] at found
    subst found
    exact utf8Size_of_mem_hexDigits digit

/-- Text that starts with a digit has nothing around its groups. -/
theorem ofText?_of_digit (length : cs.length = 36) (first : ∃ c ∈ hexDigits, cs[0]? = some c) :
    ofText? cs = ofGroups? cs := by
  obtain ⟨c, digit, found⟩ := first
  unfold ofText?
  split
  · cases found
    exact absurd digit (by decide)
  · cases found
    exact absurd digit (by decide)
  · rw [if_neg (by omega)]

/-- In thirty-six octets only the groups themselves fit. -/
theorem ofGroups?_of_ofText? {s : String} (size : s.utf8ByteSize = 36)
    (read : ofText? s.toList = some u) : ofGroups? s.toList = some u := by
  have bound : s.toList.length ≤ 36 := by
    have := length_le_utf8ByteSize s.toList
    rwa [s.ofList_toList, size] at this
  unfold ofText? at read
  split at read
  case h_1 groups eq =>
    have length := (ofGroups?_eq_some_iff.1 read).1
    simp only [eq, List.length_cons] at bound
    omega
  case h_2 groups eq =>
    rw [Option.ite_none_right_eq_some] at read
    have length := (ofGroups?_eq_some_iff.1 read.2).1
    simp only [eq, List.length_cons] at bound
    rw [List.length_dropLast] at length
    omega
  case h_3 =>
    split_ifs at read with short
    · -- thirty-two characters could take more octets than that, but digits do not
      have digit := (digits_of_readOctets? (ofDigits?_eq_some_iff.1 read)).2
      have single := utf8ByteSize_eq_length fun c mem ↦ utf8Size_of_mem_hexDigits (digit c mem)
      rw [s.ofList_toList] at single
      omega
    · exact read

end Uuid

theorem isUuidV4_iff (s : String) : isUuidV4 s = true ↔ Uuid.HyphenatedV4 s.toList := by
  rw [isUuidV4, Bool.and_eq_true, beq_iff_eq]
  constructor
  · rintro ⟨size, random⟩
    split at random
    · rename_i u read
      rw [Bool.and_eq_true, beq_iff_eq] at random
      exact Uuid.hyphenatedV4_iff_ofGroups?.2 ⟨u, Uuid.ofGroups?_of_ofText? size read, random⟩
    · cases random
  · intro text
    -- the forms with something around the groups do not start with a digit
    have form : Uuid.ofText? s.toList = Uuid.ofGroups? s.toList :=
      Uuid.ofText?_of_digit text.length_eq (text.digit 0 (by decide) (by decide))
    obtain ⟨u, read, version, variant⟩ := Uuid.hyphenatedV4_iff_ofGroups?.1 text
    refine ⟨text.utf8ByteSize_eq, ?_⟩
    rw [form, read]
    exact Bool.and_eq_true_iff.2 ⟨beq_iff_eq.2 version, variant⟩

/-- The test for random UUIDs holds of the strings that are five groups of digits with hyphens
between them, a `4` first in the third group and one of the digits with upper bits `10` first in the
fourth. -/
theorem Predicate.uuidV4_test_iff (v : Value) :
    Predicate.uuidV4.test v = true ↔ ∃ s, v = .string s ∧ Uuid.HyphenatedV4 s.toList := by
  cases v with
  | string s =>
    refine (isUuidV4_iff s).trans ⟨fun text ↦ ⟨s, rfl, text⟩, ?_⟩
    rintro ⟨_, ⟨⟩, text⟩
    exact text
  | null => exact ⟨nofun, nofun⟩
  | bool b => exact ⟨nofun, nofun⟩
  | number n => exact ⟨nofun, nofun⟩
  | array vs => exact ⟨nofun, nofun⟩
  | object es => exact ⟨nofun, nofun⟩

end JsonTyping
