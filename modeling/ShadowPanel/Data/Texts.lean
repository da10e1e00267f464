import Mathlib.Algebra.Group.Nat.Defs
import Mathlib.Data.List.TakeWhile

namespace ShadowPanel.Data

open List

universe u v

variable {α : Type u}

theorem splitLast_injective (backFree : mark ∉ back) (otherFree : mark ∉ otherBack)
    (same : front ++ mark :: back = otherFront ++ mark :: otherBack) :
    front = otherFront ∧ back = otherBack := by
  obtain ⟨extra, frontEq, backEq⟩ | ⟨extra, frontEq, backEq⟩ :=
    append_eq_append_iff.mp same
  · cases extra with
    | nil => exact ⟨by simpa using frontEq.symm, (cons.inj backEq).2⟩
    | cons first extra =>
      have inside : mark ∈ back := by
        rw [(cons.inj backEq).2]
        simp
      exact absurd inside backFree
  · cases extra with
    | nil => exact ⟨by simpa using frontEq, (cons.inj backEq).2.symm⟩
    | cons first extra =>
      have inside : mark ∈ otherBack := by
        rw [(cons.inj backEq).2]
        simp
      exact absurd inside otherFree

def cut [DecidableEq α] (mark : α) : List α → Option (List α × List α)
  | [] => none
  | first :: rest =>
    if first = mark then some ([], rest)
    else (cut mark rest).map fun (front, back) => (first :: front, back)

theorem eq_append_of_cut [DecidableEq α] {back : List α}
    (parts : cut mark text = some (front, back)) : text = front ++ mark :: back := by
  induction text generalizing front with
  | nil => cases parts
  | cons first rest ih =>
    unfold cut at parts
    split at parts
    next same =>
      cases parts
      simp [same]
    next =>
      obtain ⟨⟨inner, _⟩, found, equal⟩ := Option.map_eq_some_iff.mp parts
      cases equal
      simpa using ih found

theorem cut_append [DecidableEq α] {back : List α} (free : mark ∉ front) :
    cut mark (front ++ mark :: back) = some (front, back) := by
  induction front with
  | nil => simp [cut]
  | cons first rest ih =>
    have different : first ≠ mark := fun same => free (same ▸ mem_cons_self)
    have restFree : mark ∉ rest := fun member => free (mem_cons_of_mem _ member)
    simp [cut, different, ih restFree]

theorem cut_injective [DecidableEq α] {back : List α} (free : mark ∉ front)
    (otherFree : mark ∉ otherFront)
    (same : front ++ mark :: back = otherFront ++ mark :: otherBack) :
    front = otherFront ∧ back = otherBack := by
  have parts := congrArg (cut mark) same
  rw [cut_append free, cut_append otherFree] at parts
  exact Prod.mk.inj (Option.some.inj parts)

theorem toString_nat_injective : Function.Injective fun number : Nat => toString number := by
  intro left right same
  have digits : Nat.toDigits 10 left = Nat.toDigits 10 right := by
    simpa [← String.toList_inj] using same
  have numbers := congrArg (fun digits => Nat.ofDigitChars 10 digits 0) digits
  simpa only [Nat.ofDigitChars_ten_toDigits] using numbers

def isNumeric (text : List Char) : Bool := !text.isEmpty && text.all Char.isDigit

/-- A decimal number with an optional sign, within 64 bits. -/
def atoi (text : List Char) : Option Int :=
  let (negative, digits) := match text with
    | '-' :: digits => (true, digits)
    | '+' :: digits => (false, digits)
    | digits => (false, digits)
  let magnitude : Int := Nat.ofDigitChars 10 digits 0
  let value := if negative then -magnitude else magnitude
  if isNumeric digits && -0x8000000000000000 ≤ value && value < 0x8000000000000000 then
    some value
  else none

example : atoi "013".toList = some 13 ∧ atoi "-".toList = none := by decide

def isNumeral : List Char → Bool
  | [] => false
  | first :: rest =>
    if first = '0' then rest.isEmpty else first.isDigit && rest.all Char.isDigit

def zeroPadded (width number : Nat) : List Char :=
  replicate (width - (Nat.toDigits 10 number).length) '0' ++ Nat.toDigits 10 number

def blanks : List (Nat × Nat) :=
  [(0x9, 0x9), (0xB, 0xD), (0x20, 0x20), (0x85, 0x85), (0xA0, 0xA0), (0x1680, 0x1680),
    (0x2000, 0x200A), (0x2028, 0x2029), (0x202F, 0x202F), (0x205F, 0x205F), (0x3000, 0x3000)]

def isBlank (char : Char) : Bool :=
  blanks.any fun (first, last) => first ≤ char.toNat && char.toNat ≤ last

/-- The number that stands at the start of the text, read from so many characters
at most; what follows is left unread. -/
def scanNumber (width : Nat) (text : List Char) : Option Nat :=
  let digits := ((text.dropWhile isBlank).take width).takeWhile Char.isDigit
  if digits.isEmpty then none else some (Nat.ofDigitChars 10 digits 0)

theorem toNat_of_isDigit {char : Char} (digit : char.isDigit = true) :
    48 ≤ char.toNat ∧ char.toNat ≤ 57 := by
  simp only [Char.isDigit, Bool.and_eq_true, decide_eq_true_eq] at digit
  exact digit

theorem isBlank_of_isDigit (digit : char.isDigit = true) : isBlank char = false := by
  have bounds := toNat_of_isDigit digit
  simp only [isBlank, blanks, any_cons, any_nil, Bool.or_false, Bool.or_eq_false_iff,
    Bool.and_eq_false_iff, decide_eq_false_iff_not]
  omega

theorem isSome_scanNumber_iff (width : Nat) (positive : 0 < width) (text : List Char) :
    (scanNumber width text).isSome = true ↔
      ∃ digit rest, text.dropWhile isBlank = digit :: rest ∧ digit.isDigit = true := by
  obtain ⟨width, rfl⟩ := Nat.exists_eq_succ_of_ne_zero (Nat.pos_iff_ne_zero.mp positive)
  unfold scanNumber
  cases text.dropWhile isBlank with
  | nil => simp
  | cons first rest =>
    cases digit : first.isDigit <;> simp

theorem toDigits_of_isDigit {char : Char} (digit : char.isDigit = true) :
    Nat.toDigits 10 (char.toNat - 48) = [char] := by
  obtain ⟨lower, upper⟩ := toNat_of_isDigit digit
  have small : char.toNat - 48 < 10 := by omega
  have same : (char.toNat - 48).digitChar = char := by
    rw [← Char.toNat_inj, Nat.toNat_digitChar_of_lt_ten small]
    omega
  rw [Nat.toDigits_of_lt_base small, same]

theorem toDigits_ofDigitChars (start : Nat) (positive : 0 < start) {digits : List Char}
    (all : ∀ char ∈ digits, char.isDigit = true) :
    Nat.toDigits 10 (Nat.ofDigitChars 10 digits start) = Nat.toDigits 10 start ++ digits := by
  induction digits generalizing start with
  | nil => exact (append_nil _).symm
  | cons char rest ih =>
    have digit := all char mem_cons_self
    have bounds := toNat_of_isDigit digit
    rw [Nat.ofDigitChars_cons,
      ih _ (by omega) fun other member => all other (mem_cons_of_mem _ member),
      ← Nat.toDigits_append_toDigits (by decide) positive (by simp; omega)]
    simp [toDigits_of_isDigit digit]

theorem toDigits_of_isNumeral {digits : List Char} (numeral : isNumeral digits = true) :
    Nat.toDigits 10 (Nat.ofDigitChars 10 digits 0) = digits := by
  cases digits with
  | nil => cases numeral
  | cons first rest =>
    simp only [isNumeral] at numeral
    split at numeral
    next zero =>
      rw [List.isEmpty_iff.mp numeral, zero]
      decide
    next nonzero =>
      obtain ⟨digit, all⟩ := Bool.and_eq_true_iff.mp numeral
      have bounds := toNat_of_isDigit digit
      have other : first.toNat ≠ 48 := fun same => nonzero (Char.toNat_inj.mp same)
      have read := toDigits_ofDigitChars (first.toNat - 48) (by omega)
        (all_eq_true.mp all)
      rw [toDigits_of_isDigit digit] at read
      simpa [Nat.ofDigitChars_cons] using read

@[simp] theorem isNumeral_toDigits (number : Nat) : isNumeral (Nat.toDigits 10 number) = true := by
  induction number using Nat.strongRecOn with
  | ind number ih =>
    by_cases small : number < 10
    · rw [Nat.toDigits_of_lt_base small]
      clear ih
      decide +revert
    · have shorter := ih (number / 10) (by omega)
      have digit : (number % 10).digitChar.isDigit = true :=
        Nat.isDigit_digitChar.trans (decide_eq_true (by omega))
      have value : Nat.ofDigitChars 10 (Nat.toDigits 10 (number / 10)) 0 = number / 10 :=
        Nat.ofDigitChars_ten_toDigits
      rw [Nat.toDigits_of_base_le (by decide) (by omega)]
      cases digits : Nat.toDigits 10 (number / 10) with
      | nil => exact absurd digits Nat.toDigits_ne_nil
      | cons first rest =>
        rw [digits] at shorter value
        simp only [isNumeral, cons_append] at shorter ⊢
        split at shorter
        next zero =>
          rw [List.isEmpty_iff.mp shorter, zero] at value
          have : number / 10 = 0 := value.symm
          omega
        next nonzero => simpa [nonzero, digit] using shorter

theorem isDigit_of_mem_zeroPadded (member : char ∈ zeroPadded width number) :
    char.isDigit = true := by
  cases mem_append.mp member with
  | inl zero => exact eq_of_mem_replicate zero ▸ rfl
  | inr digit => exact Nat.isDigit_of_mem_toDigits (by decide) (by decide) digit

@[simp] theorem ofDigitChars_zeroPadded (width number : Nat) :
    Nat.ofDigitChars 10 (zeroPadded width number) 0 = number := by
  rw [zeroPadded, Nat.ofDigitChars_append, Nat.ofDigitChars_replicate_zero, Nat.mul_zero,
    Nat.ofDigitChars_ten_toDigits]

theorem zeroPadded_injective (width : Nat) : Function.Injective (zeroPadded width) := by
  intro left right same
  rw [← ofDigitChars_zeroPadded width left, same, ofDigitChars_zeroPadded]

theorem zeroPadded_ne_nil (width number : Nat) : zeroPadded width number ≠ [] := by
  intro empty
  exact Nat.toDigits_ne_nil (append_eq_nil_iff.mp empty).2

theorem ofDigitChars_lt_pow (all : ∀ char ∈ digits, char.isDigit = true) :
    Nat.ofDigitChars 10 digits 0 < 10 ^ digits.length := by
  induction digits with
  | nil => decide
  | cons char rest ih =>
    have later := ih fun other member => all other (mem_cons_of_mem _ member)
    have digit : char.toNat - '0'.toNat ≤ 9 :=
      Nat.sub_le_of_le_add (toNat_of_isDigit (all char mem_cons_self)).2
    rw [Nat.ofDigitChars_cons, Nat.ofDigitChars_eq_ofDigitChars_zero, Nat.zero_add]
    calc 10 ^ rest.length * (char.toNat - '0'.toNat) + Nat.ofDigitChars 10 rest 0
        < 10 ^ rest.length * (char.toNat - '0'.toNat) + 10 ^ rest.length :=
          Nat.add_lt_add_left later _
      _ ≤ 10 ^ rest.length * 9 + 10 ^ rest.length :=
          Nat.add_le_add_right (Nat.mul_le_mul_left _ digit) _
      _ = 10 ^ rest.length * 10 := rfl

theorem scanNumber_zeroPadded (positive : 0 < width) (number : Nat) :
    scanNumber width (zeroPadded width number) =
      some (Nat.ofDigitChars 10 ((zeroPadded width number).take width) 0) := by
  have noBlank : (zeroPadded width number).dropWhile isBlank = zeroPadded width number := by
    rw [dropWhile_eq_self_iff]
    intro nonempty
    rw [isBlank_of_isDigit (isDigit_of_mem_zeroPadded (getElem_mem nonempty))]
    exact Bool.false_ne_true
  have whole : ((zeroPadded width number).take width).takeWhile Char.isDigit =
      (zeroPadded width number).take width := by
    rw [takeWhile_eq_self_iff]
    intro char member
    exact isDigit_of_mem_zeroPadded (mem_of_mem_take member)
  have nonempty : ((zeroPadded width number).take width).isEmpty = false := by
    rw [isEmpty_eq_false_iff]
    intro empty
    cases take_eq_nil_iff.mp empty with
    | inl none => omega
    | inr none => exact zeroPadded_ne_nil width number none
  unfold scanNumber
  rw [noBlank, whole]
  exact if_neg (by rw [nonempty]; exact Bool.false_ne_true)

theorem scanNumber_zeroPadded_of_lt (positive : 0 < width) (short : number < 10 ^ width) :
    scanNumber width (zeroPadded width number) = some number := by
  have digits : (Nat.toDigits 10 number).length ≤ width :=
    (Nat.length_toDigits_le_iff (by decide) positive).mpr short
  have whole : (zeroPadded width number).length ≤ width := by
    rw [zeroPadded, length_append, length_replicate]
    omega
  rw [scanNumber_zeroPadded positive, take_of_length_le whole, ofDigitChars_zeroPadded]

theorem lt_of_scanNumber_zeroPadded (positive : 0 < width)
    (read : scanNumber width (zeroPadded width number) = some scanned) : scanned < 10 ^ width := by
  rw [scanNumber_zeroPadded positive] at read
  cases read
  refine Nat.lt_of_lt_of_le (ofDigitChars_lt_pow ?_) (Nat.pow_le_pow_right (by decide) ?_)
  · intro char member
    exact isDigit_of_mem_zeroPadded (mem_of_mem_take member)
  · exact length_take_le _ _

def trimPrefix (start text : List Char) : List Char :=
  if start.isPrefixOf text then text.drop start.length else text

def trimSlash (text : List Char) : List Char :=
  if text.getLast? = some '/' then text.dropLast else text

@[simp]
theorem trimPrefix_append (start rest : List Char) : trimPrefix start (start ++ rest) = rest := by
  have starts := isPrefixOf_iff_prefix.mpr (prefix_append start rest)
  unfold trimPrefix
  rw [if_pos starts, drop_left]

theorem trimPrefix_of_not (other : ¬start <+: text) : trimPrefix start text = text :=
  if_neg (other ∘ isPrefixOf_iff_prefix.mp)

@[simp] theorem trimSlash_append (text : List Char) : trimSlash (text ++ ['/']) = text := by
  simp [trimSlash]

theorem trimSlash_of_not_mem (free : '/' ∉ text) : trimSlash text = text :=
  if_neg fun last => free (mem_of_getLast? last)

theorem trimPrefix_cases (start text : List Char) :
    text = trimPrefix start text ∨ text = start ++ trimPrefix start text := by
  by_cases starts : start <+: text
  · obtain ⟨rest, rfl⟩ := starts
    exact .inr (by simp)
  · exact .inl (trimPrefix_of_not starts).symm

theorem trimSlash_cases (text : List Char) :
    text = trimSlash text ∨ text = trimSlash text ++ ['/'] := by
  unfold trimSlash
  split
  next slash =>
    obtain ⟨front, rfl⟩ := getLast?_eq_some_iff.mp slash
    exact .inr (by rw [dropLast_concat])
  next => exact .inl rfl

def total (size : α → Nat) : List α → Nat
  | [] => 0
  | char :: rest => size char + total size rest

@[simp] theorem total_append (size : α → Nat) (front back : List α) :
    total size (front ++ back) = total size front + total size back := by
  induction front with
  | nil => exact (Nat.zero_add _).symm
  | cons char rest ih =>
    rw [cons_append, total, total, ih, Nat.add_assoc]

theorem total_perm (size : α → Nat) {left right : List α} (same : left.Perm right) :
    total size left = total size right := by
  induction same with
  | nil => rfl
  | cons first _ ih => rw [total, total, ih]
  | swap first second rest => simp only [total, Nat.add_left_comm]
  | trans _ _ before after => exact before.trans after

theorem total_filterMap (size : β → Nat) (choose : α → Option β) (items : List α) :
    total size (items.filterMap choose) =
      total (fun item => ((choose item).map size).getD 0) items := by
  induction items with
  | nil => rfl
  | cons first rest ih => cases found : choose first <;> simp [total, found, ih]

theorem total_le_total (each : ∀ item ∈ items, size item ≤ other item) :
    total size items ≤ total other items := by
  induction items with
  | nil => exact Nat.le_refl 0
  | cons first rest ih =>
    exact Nat.add_le_add (each first mem_cons_self)
      (ih fun item member => each item (mem_cons_of_mem _ member))

theorem total_lt_total (each : ∀ item ∈ items, size item ≤ other item) (member : item ∈ items)
    (smaller : size item < other item) :
    total size items < total other items := by
  obtain ⟨front, back, rfl⟩ := append_of_mem member
  have before := total_le_total fun item inside => each item (mem_append_left _ inside)
  have after := total_le_total fun item inside =>
    each item (mem_append_right _ (mem_cons_of_mem _ inside))
  rw [total_append, total_append, total, total]
  omega

theorem utf8ByteSize_ofList_eq_total (text : List Char) :
    (String.ofList text).utf8ByteSize = total Char.utf8Size text := by
  induction text with
  | nil => rfl
  | cons char rest ih =>
    rw [← singleton_append, String.ofList_append, String.utf8ByteSize_append, ih,
      ← String.singleton_eq_ofList, String.utf8ByteSize_singleton]
    rfl

theorem utf8ByteSize_of_ascii (ascii : ∀ char ∈ text, char.utf8Size = 1) :
    (String.ofList text).utf8ByteSize = text.length := by
  rw [utf8ByteSize_ofList_eq_total]
  induction text with
  | nil => rfl
  | cons char rest ih =>
    obtain ⟨first, others⟩ := forall_mem_cons.mp ascii
    rw [total, ih others, length_cons]
    omega

end ShadowPanel.Data
