import Mathlib.Data.List.TakeWhile

namespace TextPatterns

def isLower (c : Char) : Bool := 'a' ≤ c && c ≤ 'z'

def isLowerDigit (c : Char) : Bool := isLower c || c.isDigit

def isHex (c : Char) : Bool := c.isDigit || ('a' ≤ c && c ≤ 'f')

theorem range_of_isUpper {c : Char} (h : c.isUpper = true) : 65 ≤ c.toNat ∧ c.toNat ≤ 90 :=
  of_decide_eq_true h

theorem range_of_isLower {c : Char} (h : c.isLower = true) : 97 ≤ c.toNat ∧ c.toNat ≤ 122 := by
  obtain ⟨hlow, hhigh⟩ := Bool.and_eq_true_iff.mp h
  exact ⟨of_decide_eq_true hlow, of_decide_eq_true hhigh⟩

theorem range_of_isDigit {c : Char} (h : c.isDigit = true) : 48 ≤ c.toNat ∧ c.toNat ≤ 57 := by
  obtain ⟨hlow, hhigh⟩ := Bool.and_eq_true_iff.mp h
  exact ⟨of_decide_eq_true hlow, of_decide_eq_true hhigh⟩

theorem cases_of_isAlphanum {c : Char} (h : c.isAlphanum = true) :
    c.isUpper = true ∨ c.isLower = true ∨ c.isDigit = true := by
  rcases Bool.or_eq_true_iff.mp h with hletter | hdigit
  · rcases Bool.or_eq_true_iff.mp hletter with hupper | hlower
    · exact .inl hupper
    · exact .inr (.inl hlower)
  · exact .inr (.inr hdigit)

/-- One character, between `low` and `high` characters of a kind, and one more. -/
def bounded (first middle last : Char → Bool) (low high : ℕ) (text : List Char) : Bool :=
  match text with
  | [] => false
  | c :: rest =>
    first c && rest.getLast?.any last && rest.dropLast.all middle &&
      low ≤ rest.dropLast.length && rest.dropLast.length ≤ high

/-- The first code points of the blocks of ten decimal digits. -/
def digitZeros : List ℕ :=
  [0x30, 0x660, 0x6f0, 0x7c0, 0x966, 0x9e6, 0xa66, 0xae6, 0xb66, 0xbe6, 0xc66, 0xce6, 0xd66, 0xde6, 0xe50,
    0xed0, 0xf20, 0x1040, 0x1090, 0x17e0, 0x1810, 0x1946, 0x19d0, 0x1a80, 0x1a90, 0x1b50, 0x1bb0, 0x1c40,
    0x1c50, 0xa620, 0xa8d0, 0xa900, 0xa9d0, 0xa9f0, 0xaa50, 0xabf0, 0xff10, 0x104a0, 0x10d30, 0x11066,
    0x110f0, 0x11136, 0x111d0, 0x112f0, 0x11450, 0x114d0, 0x11650, 0x116c0, 0x11730, 0x118e0, 0x11950,
    0x11c50, 0x11d50, 0x11da0, 0x16a60, 0x16ac0, 0x16b50, 0x1d7ce, 0x1d7d8, 0x1d7e2, 0x1d7ec, 0x1d7f6,
    0x1e140, 0x1e2f0, 0x1e950, 0x1fbf0]

/-- The value of a decimal digit of any script. -/
def decimalDigit (c : Char) : Option ℕ :=
  (digitZeros.find? fun first => first ≤ c.toNat && c.toNat < first + 10).map fun first => c.toNat - first

/-- The number that a text of decimal digits of any script stands for. -/
def decimalNumber (text : List Char) : Option ℕ :=
  if text = [] then none
  else text.foldlM (fun n c => (decimalDigit c).map fun d => n * 10 + d) 0

/-- The white space of every script. -/
def isSpace (c : Char) : Bool :=
  let n := c.toNat
  (0x9 ≤ n && n ≤ 0xd) || (0x1c ≤ n && n ≤ 0x20) || n = 0x85 || n = 0xa0 || n = 0x1680 ||
    (0x2000 ≤ n && n ≤ 0x200a) || n = 0x2028 || n = 0x2029 || n = 0x202f || n = 0x205f || n = 0x3000

def stripText (text : List Char) : List Char :=
  ((text.dropWhile isSpace).reverse.dropWhile isSpace).reverse

theorem stripText_eq {text : List Char} (h : ∀ c ∈ text, isSpace c = false) : stripText text = text := by
  have hdrop : ∀ l : List Char, (∀ c ∈ l, isSpace c = false) → l.dropWhile isSpace = l := by
    intro l hl
    cases l with
    | nil => rfl
    | cons c l =>
      rw [List.dropWhile_cons, hl c List.mem_cons_self]
      rfl
  rw [stripText, hdrop text h, hdrop _ fun c hc => h c (List.mem_reverse.mp hc), List.reverse_reverse]

theorem isSpace_of_isDigit {c : Char} (h : c.isDigit = true) : isSpace c = false := by
  obtain ⟨hlow, hhigh⟩ := range_of_isDigit h
  simp only [isSpace]
  simp
  omega

theorem decimalDigit_of_isDigit {c : Char} (h : c.isDigit = true) : decimalDigit c = some (c.toNat - 48) := by
  obtain ⟨hlow, hhigh⟩ := range_of_isDigit h
  have hfirst : (decide (0x30 ≤ c.toNat) && decide (c.toNat < 0x30 + 10)) = true := by
    simp only [Bool.and_eq_true, decide_eq_true_eq]
    omega
  have hzeros : digitZeros = 0x30 :: digitZeros.tail := rfl
  unfold decimalDigit
  rw [hzeros, List.find?_cons, hfirst]
  rfl

theorem stripText_eq_nil_iff {text : List Char} : stripText text = [] ↔ ∀ c ∈ text, isSpace c = true := by
  unfold stripText
  rw [List.reverse_eq_nil_iff, List.dropWhile_eq_nil_iff]
  constructor
  · intro h c hc
    rcases List.mem_append.mp ((List.takeWhile_append_dropWhile (p := isSpace) (l := text)).symm ▸ hc) with hfront | hback
    · exact List.mem_takeWhile_imp hfront
    · exact h c (List.mem_reverse.mpr hback)
  · intro h c hc
    exact h c ((List.dropWhile_sublist _).subset (List.mem_reverse.mp hc))

/-- A text that is stripped and in upper case. -/
def isNormalizedUpper (text : String) : Bool := (stripText text.toList).map Char.toUpper = text.toList

end TextPatterns
