import Mathlib.Algebra.BigOperators.Group.List.Basic
import Mathlib.Algebra.GroupWithZero.Nat
import IndiaSwing.Lib.JsonRecord
import IndiaSwing.Lib.Utf8Text

/-! How many bytes the text of a value takes that is written without escapes in ASCII. -/

namespace JsonText

/-- A character that is written as itself, in one byte. -/
def PlainChar (c : Char) : Prop := escape c = [c] ∧ c.toNat < 128

instance (c : Char) : Decidable (PlainChar c) := inferInstanceAs (Decidable (_ ∧ _))

def PlainText (text : String) : Prop := ∀ c ∈ text.toList, PlainChar c

instance (text : String) : Decidable (PlainText text) :=
  List.decidableBAll PlainChar text.toList

mutual

def Plain : Json → Prop
  | .string value => PlainText value
  | .array items => PlainItems items
  | .object entries => PlainEntries entries
  | .null => True
  | .bool _ => True
  | .number _ => True

def PlainItems : List Json → Prop
  | [] => True
  | item :: items => Plain item ∧ PlainItems items

def PlainEntries : List (String × Json) → Prop
  | [] => True
  | (key, value) :: entries => PlainText key ∧ Plain value ∧ PlainEntries entries

end

mutual

/-- The length of the compact text, with one character to spare in each array and object. -/
def size : Json → ℕ
  | .null => 4
  | .bool _ => 5
  | .number value => (renderNumber value).length
  | .string value => value.toList.length + 2
  | .array items => sizeItems items + 2
  | .object entries => sizeEntries entries + 2

def sizeItems : List Json → ℕ
  | [] => 0
  | item :: items => size item + 1 + sizeItems items

def sizeEntries : List (String × Json) → ℕ
  | [] => 0
  | (key, value) :: entries => key.toList.length + size value + 4 + sizeEntries entries

end

variable {text : String} {chars : List Char} {value : Json}

theorem plainChar_of_range {c : Char} (h : 35 ≤ c.toNat) (hlast : c.toNat < 128) (hslash : c ≠ '\\') :
    PlainChar c := by
  have hne : ∀ d : Char, d.toNat < 35 → c ≠ d := by
    rintro d hd rfl
    omega
  refine ⟨?_, hlast⟩
  have hlow : ¬c.toNat < 32 := by omega
  simp [escape, hne '"' (by decide), hslash, hne '\n' (by decide), hne '\r' (by decide),
    hne '\t' (by decide), hne '\x08' (by decide), hne '\x0c' (by decide), hlow]

theorem PlainText.append {other : String} (h : PlainText text) (h' : PlainText other) :
    PlainText (text ++ other) := by
  intro c hc
  rw [String.toList_append, List.mem_append] at hc
  exact hc.elim (h c) (h' c)

theorem plainText_ofList (h : ∀ c ∈ chars, PlainChar c) : PlainText (String.ofList chars) := by
  intro c hc
  rw [String.toList_ofList] at hc
  exact h c hc

theorem renderString_plain (h : PlainText text) : renderString text = '"' :: (text.toList ++ ['"']) := by
  have hchars : text.toList.flatMap escape = text.toList := by
    unfold PlainText at h
    generalize text.toList = chars at h ⊢
    induction chars with
    | nil => rfl
    | cons c chars ih =>
      rw [List.flatMap_cons, (h c List.mem_cons_self).1, ih fun d hd => h d (List.mem_cons_of_mem _ hd)]
      rfl
  unfold renderString renderChars
  rw [hchars]

theorem ascii_renderNumber (z : ℤ) : ∀ c ∈ renderNumber z, c.toNat < 128 := by
  have hdigits : ∀ n, ∀ c ∈ DigitText.digits n, c.toNat < 128 := by
    intro n c hc
    have hdigit := DigitText.isDigit_of_mem_digits hc
    simp only [Char.isDigit, Bool.and_eq_true, decide_eq_true_eq] at hdigit
    have hle : c.toNat ≤ 57 := hdigit.2
    omega
  intro c hc
  cases z with
  | ofNat n => exact hdigits n c hc
  | negSucc n =>
    rcases List.mem_cons.mp hc with rfl | hc
    · decide
    · exact hdigits _ c hc

theorem ascii_renderString (h : PlainText text) : ∀ c ∈ renderString text, c.toNat < 128 := by
  rw [renderString_plain h]
  intro c hc
  rcases List.mem_cons.mp hc with rfl | hc
  · decide
  · rcases List.mem_append.mp hc with hc | hc
    · exact (h c hc).2
    · rw [List.mem_singleton.mp hc]
      decide

theorem length_renderString (h : PlainText text) : (renderString text).length = text.toList.length + 2 := by
  rw [renderString_plain h]
  simp

mutual

theorem length_render_le (value : Json) (h : Plain value) : (render value).length ≤ size value := by
  match value, h with
  | .null, _ => simp [render, size]
  | .bool true, _ => simp [render, size]
  | .bool false, _ => simp [render, size]
  | .number z, _ => simp [render, size]
  | .string text, h =>
    rw [render, size, length_renderString h]
  | .array [], _ => simp [render, size, sizeItems]
  | .array (item :: items), h =>
    have hitem := length_render_le item h.1
    have hitems := length_renderItems_le items h.2
    simp only [render, size, sizeItems, List.length_cons, List.length_append]
    omega
  | .object [], _ => simp [render, size, sizeEntries]
  | .object ((key, item) :: entries), h =>
    have hkey := length_renderString h.1
    have hitem := length_render_le item h.2.1
    have hentries := length_renderEntries_le entries h.2.2
    simp only [render, size, sizeEntries, List.length_cons, List.length_append]
    omega

theorem length_renderItems_le (items : List Json) (h : PlainItems items) :
    (renderItems items).length ≤ sizeItems items + 1 := by
  match items, h with
  | [], _ => simp [renderItems, sizeItems]
  | item :: items, h =>
    have hitem := length_render_le item h.1
    have hitems := length_renderItems_le items h.2
    simp only [renderItems, sizeItems, List.length_cons, List.length_append]
    omega

theorem length_renderEntries_le (entries : List (String × Json)) (h : PlainEntries entries) :
    (renderEntries entries).length ≤ sizeEntries entries + 1 := by
  match entries, h with
  | [], _ => simp [renderEntries, sizeEntries]
  | (key, item) :: entries, h =>
    have hkey := length_renderString h.1
    have hitem := length_render_le item h.2.1
    have hentries := length_renderEntries_le entries h.2.2
    simp only [renderEntries, sizeEntries, List.length_cons, List.length_append]
    omega

end

theorem ascii_of_all {text : List Char} (h : text.all (·.toNat < 128) = true) : ∀ c ∈ text, c.toNat < 128 := by
  intro c hc
  exact of_decide_eq_true (List.all_eq_true.mp h c hc)

mutual

theorem ascii_render (value : Json) (h : Plain value) : ∀ c ∈ render value, c.toNat < 128 := by
  match value, h with
  | .null, _ => exact ascii_of_all (by decide)
  | .bool true, _ => exact ascii_of_all (by decide)
  | .bool false, _ => exact ascii_of_all (by decide)
  | .number z, _ => exact ascii_renderNumber z
  | .string text, h => exact ascii_renderString h
  | .array [], _ => exact ascii_of_all (by decide)
  | .array (item :: items), h =>
    intro c hc
    simp only [render, List.mem_cons, List.mem_append] at hc
    rcases hc with rfl | hc | hc
    · decide
    · exact ascii_render item h.1 c hc
    · exact ascii_renderItems items h.2 c hc
  | .object [], _ => exact ascii_of_all (by decide)
  | .object ((key, item) :: entries), h =>
    intro c hc
    simp only [render, List.mem_cons, List.mem_append] at hc
    rcases hc with rfl | hc | rfl | hc | hc
    · decide
    · exact ascii_renderString h.1 c hc
    · decide
    · exact ascii_render item h.2.1 c hc
    · exact ascii_renderEntries entries h.2.2 c hc

theorem ascii_renderItems (items : List Json) (h : PlainItems items) :
    ∀ c ∈ renderItems items, c.toNat < 128 := by
  match items, h with
  | [], _ => exact ascii_of_all (by decide)
  | item :: items, h =>
    intro c hc
    simp only [renderItems, List.mem_cons, List.mem_append] at hc
    rcases hc with rfl | hc | hc
    · decide
    · exact ascii_render item h.1 c hc
    · exact ascii_renderItems items h.2 c hc

theorem ascii_renderEntries (entries : List (String × Json)) (h : PlainEntries entries) :
    ∀ c ∈ renderEntries entries, c.toNat < 128 := by
  match entries, h with
  | [], _ => exact ascii_of_all (by decide)
  | (key, item) :: entries, h =>
    intro c hc
    simp only [renderEntries, List.mem_cons, List.mem_append] at hc
    rcases hc with rfl | hc | rfl | hc | hc
    · decide
    · exact ascii_renderString h.1 c hc
    · decide
    · exact ascii_render item h.2.1 c hc
    · exact ascii_renderEntries entries h.2.2 c hc

end

mutual

/-- The text is not shorter than half of the size. -/
theorem size_le_length_render (value : Json) (h : Plain value) : size value ≤ 2 * (render value).length := by
  match value, h with
  | .null, _ => simp [render, size]
  | .bool true, _ => simp [render, size]
  | .bool false, _ => simp [render, size]
  | .number z, _ =>
    simp only [render, size]
    omega
  | .string text, h =>
    rw [render, size, length_renderString h]
    omega
  | .array [], _ => simp [render, size, sizeItems]
  | .array (item :: items), h =>
    have hitem := size_le_length_render item h.1
    have hitems := sizeItems_le_length_render items h.2
    simp only [render, size, sizeItems, List.length_cons, List.length_append]
    omega
  | .object [], _ => simp [render, size, sizeEntries]
  | .object ((key, item) :: entries), h =>
    have hkey := length_renderString h.1
    have hitem := size_le_length_render item h.2.1
    have hentries := sizeEntries_le_length_render entries h.2.2
    simp only [render, size, sizeEntries, List.length_cons, List.length_append]
    omega

theorem sizeItems_le_length_render (items : List Json) (h : PlainItems items) :
    sizeItems items + 2 ≤ 2 * (renderItems items).length := by
  match items, h with
  | [], _ => simp [renderItems, sizeItems]
  | item :: items, h =>
    have hitem := size_le_length_render item h.1
    have hitems := sizeItems_le_length_render items h.2
    simp only [renderItems, sizeItems, List.length_cons, List.length_append]
    omega

theorem sizeEntries_le_length_render (entries : List (String × Json)) (h : PlainEntries entries) :
    sizeEntries entries + 2 ≤ 2 * (renderEntries entries).length := by
  match entries, h with
  | [], _ => simp [renderEntries, sizeEntries]
  | (key, item) :: entries, h =>
    have hkey := length_renderString h.1
    have hitem := size_le_length_render item h.2.1
    have hentries := sizeEntries_le_length_render entries h.2.2
    simp only [renderEntries, sizeEntries, List.length_cons, List.length_append]
    omega

end

theorem plainItems_iff (items : List Json) : PlainItems items ↔ ∀ item ∈ items, Plain item := by
  induction items with
  | nil => simp [PlainItems]
  | cons item items ih => simp [PlainItems, ih]

theorem plainEntries_iff (entries : List (String × Json)) :
    PlainEntries entries ↔ ∀ entry ∈ entries, PlainText entry.1 ∧ Plain entry.2 := by
  induction entries with
  | nil => simp [PlainEntries]
  | cons entry entries ih =>
    obtain ⟨key, value⟩ := entry
    simp [PlainEntries, ih, and_assoc]

theorem sizeEntries_eq (entries : List (String × Json)) : sizeEntries entries =
    (entries.map fun entry => entry.1.toList.length + size entry.2 + 4).sum := by
  induction entries with
  | nil => rfl
  | cons entry entries ih =>
    obtain ⟨key, value⟩ := entry
    rw [sizeEntries, ih, List.map_cons, List.sum_cons]

mutual

/-- Sorting the keys keeps the size and the plain texts. -/
theorem sortKeys_size (value : Json) (h : Plain value) :
    size (sortKeys value) = size value ∧ Plain (sortKeys value) := by
  match value, h with
  | .null, h => exact ⟨by rw [sortKeys], by rw [sortKeys]; exact h⟩
  | .bool b, h => exact ⟨by rw [sortKeys], by rw [sortKeys]; exact h⟩
  | .number z, h => exact ⟨by rw [sortKeys], by rw [sortKeys]; exact h⟩
  | .string text, h => exact ⟨by rw [sortKeys], by rw [sortKeys]; exact h⟩
  | .array items, h =>
    obtain ⟨hsize, hplain⟩ := sortItems_size items h
    rw [sortKeys]
    exact ⟨by rw [size, size, hsize], hplain⟩
  | .object entries, h =>
    obtain ⟨hsize, hplain⟩ := sortEntries_size entries h
    have hperm := List.perm_insertionSort (fun a b : String × Json => a.1 ≤ b.1) (sortEntries entries)
    rw [sortKeys, size, size, sizeEntries_eq, (hperm.map _).sum_eq, ← sizeEntries_eq, hsize]
    refine ⟨rfl, (plainEntries_iff _).mpr fun entry hentry => ?_⟩
    exact (plainEntries_iff _).mp hplain entry (hperm.mem_iff.mp hentry)

theorem sortItems_size (items : List Json) (h : PlainItems items) :
    sizeItems (sortItems items) = sizeItems items ∧ PlainItems (sortItems items) := by
  match items, h with
  | [], h => exact ⟨rfl, h⟩
  | item :: items, h =>
    obtain ⟨hsize, hplain⟩ := sortKeys_size item h.1
    obtain ⟨hsizes, hplains⟩ := sortItems_size items h.2
    rw [sortItems, sizeItems, sizeItems, hsize, hsizes]
    exact ⟨rfl, hplain, hplains⟩

theorem sortEntries_size (entries : List (String × Json)) (h : PlainEntries entries) :
    sizeEntries (sortEntries entries) = sizeEntries entries ∧ PlainEntries (sortEntries entries) := by
  match entries, h with
  | [], h => exact ⟨rfl, h⟩
  | (key, value) :: entries, h =>
    obtain ⟨hsize, hplain⟩ := sortKeys_size value h.2.1
    obtain ⟨hsizes, hplains⟩ := sortEntries_size entries h.2.2
    rw [sortEntries, sizeEntries, sizeEntries, hsize, hsizes]
    exact ⟨rfl, h.1, hplain, hplains⟩

end

/-- ASCII takes one byte for each character. -/
theorem length_encode_ascii (h : ∀ c ∈ chars, c.toNat < 128) :
    (Utf8Text.encode (String.ofList chars)).length = chars.length := by
  have hbytes : ∀ l : List Char, (∀ c ∈ l, c.toNat < 128) → (l.flatMap String.utf8EncodeChar).length = l.length := by
    intro l hl
    induction l with
    | nil => rfl
    | cons c l ih =>
      have hone : c.utf8Size = 1 := by
        rw [Char.utf8Size_eq_one_iff]
        have hc := hl c List.mem_cons_self
        show c.val.toNat ≤ 127
        have : c.val.toNat < 128 := hc
        omega
      rw [List.flatMap_cons, List.length_append, String.length_utf8EncodeChar, hone,
        ih fun d hd => hl d (List.mem_cons_of_mem _ hd), List.length_cons]
      omega
  rw [← hbytes chars h]
  unfold Utf8Text.encode
  rw [String.toByteArray_ofList, List.utf8Encode]
  simp

theorem length_encode_line (h : Plain value) :
    (Utf8Text.encode (dumps value ++ "\n")).length = (render (sortKeys value)).length + 1 := by
  obtain ⟨-, hplain⟩ := sortKeys_size value h
  have htext : dumps value ++ "\n" = String.ofList (render (sortKeys value) ++ ['\n']) := by
    rw [dumps, String.ofList_append]
  have hascii : ∀ c ∈ render (sortKeys value) ++ ['\n'], c.toNat < 128 := by
    intro c hc
    rcases List.mem_append.mp hc with hc | hc
    · exact ascii_render _ hplain c hc
    · rw [List.mem_singleton.mp hc]
      decide
  rw [htext, length_encode_ascii hascii, List.length_append, List.length_singleton]

theorem length_encode_line_le (h : Plain value) :
    (Utf8Text.encode (dumps value ++ "\n")).length ≤ size value + 1 := by
  obtain ⟨hsize, hplain⟩ := sortKeys_size value h
  rw [length_encode_line h, ← hsize]
  exact Nat.add_le_add_right (length_render_le _ hplain) 1

theorem size_le_length_encode_line (h : Plain value) :
    size value ≤ 2 * (Utf8Text.encode (dumps value ++ "\n")).length := by
  obtain ⟨hsize, hplain⟩ := sortKeys_size value h
  have hrender := size_le_length_render _ hplain
  rw [length_encode_line h, ← hsize]
  omega

end JsonText
