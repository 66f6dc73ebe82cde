import IndiaSwing.Lib.JsonText

namespace JsonText

open DigitText

section RoundTrip

variable {c : Char} {chars rest text : List Char} {n depth : ℕ} {value : Json}

theorem hexValue_hexDigit (h : n < 16) : hexValue (hexDigit n) = some n := by
  have hall : ∀ n < 16, hexValue (hexDigit n) = some n := by decide
  exact hall n h

/-- Reading an escaped character gives the character. -/
theorem scanString_escape : scanString (escape c ++ rest) = consChar c (scanString rest) := by
  unfold escape
  split_ifs with hquote hslash hn hr ht hb hf hcontrol
  · subst hquote; rfl
  · subst hslash; rfl
  · subst hn; rfl
  · subst hr; rfl
  · subst ht; rfl
  · subst hb; rfl
  · subst hf; rfl
  · have hzero : hexValue '0' = some 0 := by decide
    have hquad : hexQuad '0' '0' (hexDigit (c.toNat / 16)) (hexDigit (c.toNat % 16)) = some c.toNat := by
      have hhigh := hexValue_hexDigit (n := c.toNat / 16) (by omega)
      have hlow := hexValue_hexDigit (n := c.toNat % 16) (by omega)
      simp only [hexQuad, hzero, hhigh, hlow, Option.bind_eq_bind, Option.bind_some, Option.pure_def]
      congr 1
      omega
    have hnothigh : highSurrogate c.toNat = false := by
      simp only [highSurrogate, Bool.and_eq_false_iff, decide_eq_false_iff_not]
      omega
    have hnotlow : lowSurrogate c.toNat = false := by
      simp only [lowSurrogate, Bool.and_eq_false_iff, decide_eq_false_iff_not]
      omega
    show scanString ('\\' :: 'u' :: '0' :: '0' :: hexDigit (c.toNat / 16) :: hexDigit (c.toNat % 16) :: rest) = _
    rw [scanString, hquad]
    simp [hnothigh, hnotlow]
  · show scanString (c :: rest) = _
    rw [scanString]
    · simp [hcontrol, hslash]
    · exact hquote
    · rintro _ _ _ _ _ rfl
      simp at hslash
    · rintro _ _ rfl
      simp at hslash

theorem scanString_renderChars : scanString (renderChars chars ++ rest) = .ok (chars, rest) := by
  induction chars with
  | nil => rfl
  | cons c chars ih =>
    have hsplit : renderChars (c :: chars) ++ rest = escape c ++ (renderChars chars ++ rest) := by
      simp [renderChars]
    rw [hsplit, scanString_escape, ih]
    rfl

/-- The text after a value: its end, a line break, or the mark that follows an item or an entry. -/
def Terminated (rest : List Char) : Prop :=
  ∀ c ∈ rest.head?, c = ',' ∨ c = ']' ∨ c = '}' ∨ c = '\n'

theorem Terminated.not_isDigit (h : Terminated rest) (hc : c ∈ rest.head?) : c.isDigit = false := by
  rcases h c hc with rfl | rfl | rfl | rfl <;> rfl

theorem Terminated.floatFollows (h : Terminated rest) : floatFollows rest = false := by
  cases rest with
  | nil => rfl
  | cons c rest =>
    rcases h c rfl with rfl | rfl | rfl | rfl <;> cases rest <;> simp [JsonText.floatFollows]

theorem scanInteger_digits (h : Terminated rest) : scanInteger (digits n ++ rest) = some (n, rest) := by
  have hstop : rest.takeWhile (·.isDigit) = [] ∧ rest.dropWhile (·.isDigit) = rest := by
    cases rest with
    | nil => exact ⟨rfl, rfl⟩
    | cons c rest => simp [h.not_isDigit (c := c) rfl]
  by_cases hn : n = 0
  · rw [hn, digits_zero]
    rfl
  · cases hdigits : digits n with
    | nil => exact absurd hdigits digits_ne_nil
    | cons first others =>
      have hfirst : first ≠ '0' := by
        rintro rfl
        exact hn (head_digits hdigits)
      have hmem (c : Char) (hc : c ∈ first :: others) : c.isDigit = true := by
        rw [← hdigits] at hc
        exact isDigit_of_mem_digits hc
      have hothers : ∀ c ∈ others, c.isDigit = true := fun c hc => hmem c (List.mem_cons_of_mem _ hc)
      rw [List.cons_append, scanInteger]
      · rw [if_pos (hmem first List.mem_cons_self), List.takeWhile_append_of_pos hothers,
          List.dropWhile_append_of_pos hothers, hstop.1, hstop.2, List.append_nil, ← hdigits, value_digits]
      · exact hfirst

theorem parseNumber_render (z : ℤ) (h : Terminated rest) :
    parseNumber (renderNumber z ++ rest) = .ok (.number z, rest) := by
  cases z with
  | ofNat n =>
    have hhead : (digits n ++ rest).head? ≠ some '-' := by
      cases hdigits : digits n with
      | nil => exact absurd hdigits digits_ne_nil
      | cons first others =>
        rintro ⟨⟩
        have hdigit : Char.isDigit '-' = true := isDigit_of_mem_digits (n := n) (by rw [hdigits]; simp)
        simp at hdigit
    simp only [renderNumber, parseNumber, hhead, Bool.false_eq_true, if_false,
      scanInteger_digits h, h.floatFollows]
    rfl
  | negSucc n =>
    simp only [renderNumber, parseNumber, List.cons_append, List.head?_cons, if_true,
      List.tail_cons, scanInteger_digits h, h.floatFollows, Bool.false_eq_true, if_false]
    rw [Int.negSucc_eq]
    push_cast
    rfl

end RoundTrip

section RoundTripValues

variable {rest : List Char} {depth : ℕ}

mutual

/-- No object of the value has a key twice. -/
def Distinct : Json → Prop
  | .array items => DistinctItems items
  | .object entries => (entries.map (·.1)).Nodup ∧ DistinctEntries entries
  | _ => True

def DistinctItems : List Json → Prop
  | [] => True
  | item :: items => Distinct item ∧ DistinctItems items

def DistinctEntries : List (String × Json) → Prop
  | [] => True
  | (_, value) :: entries => Distinct value ∧ DistinctEntries entries

end

mutual

/-- The depth that reading the value takes. -/
def weight : Json → ℕ
  | .array items => weightItems items + 1
  | .object entries => weightEntries entries + 1
  | _ => 1

def weightItems : List Json → ℕ
  | [] => 0
  | item :: items => weight item + weightItems items + 1

def weightEntries : List (String × Json) → ℕ
  | [] => 0
  | (_, value) :: entries => weight value + weightEntries entries + 1

end

theorem length_renderNumber (z : ℤ) : 1 ≤ (renderNumber z).length := by
  cases z with
  | ofNat n => exact List.length_pos_iff.mpr digits_ne_nil
  | negSucc n => simp [renderNumber]

mutual

theorem weight_le (value : Json) : weight value ≤ (render value).length := by
  cases value with
  | null => simp [weight, render]
  | bool value => cases value <;> simp [weight, render]
  | number value => exact length_renderNumber value
  | string value => simp [weight, render, renderString]
  | array items =>
    cases items with
    | nil => simp [weight, weightItems, render]
    | cons item items =>
      have hitem := weight_le item
      have hitems := weightItems_lt items
      simp only [weight, weightItems, render, List.length_cons, List.length_append]
      omega
  | object entries =>
    cases entries with
    | nil => simp [weight, weightEntries, render]
    | cons entry entries =>
      obtain ⟨key, value⟩ := entry
      have hvalue := weight_le value
      have hentries := weightEntries_lt entries
      simp only [weight, weightEntries, render, List.length_cons, List.length_append]
      omega

theorem weightItems_lt (items : List Json) : weightItems items < (renderItems items).length := by
  cases items with
  | nil => simp [weightItems, renderItems]
  | cons item items =>
    have hitem := weight_le item
    have hitems := weightItems_lt items
    simp only [weightItems, renderItems, List.length_cons, List.length_append]
    omega

theorem weightEntries_lt (entries : List (String × Json)) :
    weightEntries entries < (renderEntries entries).length := by
  cases entries with
  | nil => simp [weightEntries, renderEntries]
  | cons entry entries =>
    obtain ⟨key, value⟩ := entry
    have hvalue := weight_le value
    have hentries := weightEntries_lt entries
    simp only [weightEntries, renderEntries, List.length_cons, List.length_append]
    omega

end

/-- A value starts with a character that is no space and closes nothing. -/
theorem head_render (value : Json) : ∃ c text, render value = c :: text ∧
    (c = ' ' || c = '\t' || c = '\n' || c = '\r') = false ∧ c ≠ ']' ∧ c ≠ '\ufeff' := by
  cases value with
  | null => exact ⟨_, _, rfl, by decide⟩
  | bool value => cases value <;> exact ⟨_, _, rfl, by decide⟩
  | string value => exact ⟨_, _, rfl, by decide⟩
  | array items => cases items <;> exact ⟨_, _, rfl, by decide⟩
  | object entries => rcases entries with _ | ⟨⟨key, value⟩, entries⟩ <;> exact ⟨_, _, rfl, by decide⟩
  | number z =>
    cases z with
    | negSucc n => exact ⟨_, _, rfl, by decide⟩
    | ofNat n =>
      cases hdigits : digits n with
      | nil => exact absurd hdigits digits_ne_nil
      | cons first others =>
        have hdigit : first.isDigit = true := isDigit_of_mem_digits (n := n) (by rw [hdigits]; simp)
        refine ⟨first, others, hdigits, ?_, ?_, ?_⟩
        · simp only [Bool.or_eq_false_iff, decide_eq_false_iff_not]
          refine ⟨⟨⟨?_, ?_⟩, ?_⟩, ?_⟩ <;> rintro rfl <;> simp at hdigit
        · rintro rfl
          simp at hdigit
        · rintro rfl
          simp at hdigit

theorem skipSpaces_render (value : Json) : skipSpaces (render value ++ rest) = render value ++ rest := by
  obtain ⟨c, text, hrender, hspace, -, -⟩ := head_render value
  rw [hrender, List.cons_append]
  unfold skipSpaces
  rw [List.dropWhile_cons_of_neg (by simp only [hspace]; decide)]

theorem skipSpaces_cons {c : Char} {text : List Char} (h : c = ',' ∨ c = ']' ∨ c = '}' ∨ c = ':' ∨ c = '"') :
    skipSpaces (c :: text) = c :: text := by
  rcases h with rfl | rfl | rfl | rfl | rfl <;> rfl

/-- A text that starts like a number is read as one. -/
theorem parseValue_number (z : ℤ) :
    parseValue (depth + 1) (renderNumber z ++ rest) = parseNumber (renderNumber z ++ rest) := by
  have hhead : ∃ c text, renderNumber z = c :: text ∧ (c = '-' ∨ c.isDigit = true) := by
    cases z with
    | negSucc n => exact ⟨_, _, rfl, .inl rfl⟩
    | ofNat n =>
      cases hdigits : digits n with
      | nil => exact absurd hdigits digits_ne_nil
      | cons first others =>
        exact ⟨first, others, hdigits, .inr (isDigit_of_mem_digits (n := n) (by rw [hdigits]; simp))⟩
  obtain ⟨c, text, hrender, hc⟩ := hhead
  rw [hrender, List.cons_append, parseValue]
  all_goals
    intro _ heq
    obtain ⟨rfl, -⟩ := List.cons.inj heq
    simp at hc

theorem parseValue_array {text : List Char} {items : List Json} (hskip : skipSpaces text = text)
    (hopen : text.head? ≠ some ']') (h : parseItems depth text = .ok (items, rest)) :
    parseValue (depth + 1) ('[' :: text) = .ok (.array items, rest) := by
  rw [parseValue, hskip]
  split
  next => exact absurd rfl hopen
  next => rw [h]; rfl

theorem parseValue_object {text : List Char} {entries : List (String × Json)}
    (hskip : skipSpaces text = text) (hopen : text.head? ≠ some '}')
    (h : parseEntries depth text = .ok (entries, rest)) (hnodup : (entries.map (·.1)).Nodup) :
    parseValue (depth + 1) ('{' :: text) = .ok (.object entries, rest) := by
  rw [parseValue, hskip]
  split
  next => exact absurd rfl hopen
  next =>
    rw [h]
    show (if (entries.map (·.1)).Nodup then _ else _) = _
    rw [if_pos hnodup]
    rfl

theorem terminated_renderItems (items : List Json) : Terminated (renderItems items ++ rest) := by
  cases items with
  | nil =>
    rintro c ⟨⟩
    exact .inr (.inl rfl)
  | cons item items =>
    rintro c ⟨⟩
    exact .inl rfl

theorem terminated_renderEntries (entries : List (String × Json)) :
    Terminated (renderEntries entries ++ rest) := by
  rcases entries with _ | ⟨⟨key, value⟩, entries⟩
  · rintro c ⟨⟩
    exact .inr (.inr (.inl rfl))
  · rintro c ⟨⟩
    exact .inl rfl

theorem parseItems_last {text : List Char} {item : Json}
    (h : parseValue depth text = .ok (item, ']' :: rest)) :
    parseItems (depth + 1) text = .ok ([item], rest) := by
  rw [parseItems, h]
  rfl

theorem parseItems_more {text more : List Char} {item : Json} {items : List Json}
    (h : parseValue depth text = .ok (item, ',' :: more)) (hskip : skipSpaces more = more)
    (hmore : parseItems depth more = .ok (items, rest)) :
    parseItems (depth + 1) text = .ok (item :: items, rest) := by
  rw [parseItems, h]
  show (parseItems depth (skipSpaces more) >>= _) = _
  rw [hskip, hmore]
  rfl

theorem parseEntries_last {text : List Char} {key : String} {value : Json}
    (hskip : skipSpaces text = text) (h : parseValue depth text = .ok (value, '}' :: rest)) :
    parseEntries (depth + 1) ('"' :: (renderChars key.toList ++ ':' :: text)) = .ok ([(key, value)], rest) := by
  rw [parseEntries, scanString_renderChars]
  show (parseValue depth (skipSpaces text) >>= _) = _
  rw [hskip, h]
  show Except.ok ([(String.ofList key.toList, value)], rest) = _
  rw [String.ofList_toList]

theorem parseEntries_more {text more : List Char} {key : String} {value : Json}
    {entries : List (String × Json)} (hskip : skipSpaces text = text)
    (h : parseValue depth text = .ok (value, ',' :: more)) (hskip' : skipSpaces more = more)
    (hmore : parseEntries depth more = .ok (entries, rest)) :
    parseEntries (depth + 1) ('"' :: (renderChars key.toList ++ ':' :: text)) =
      .ok ((key, value) :: entries, rest) := by
  rw [parseEntries, scanString_renderChars]
  show (parseValue depth (skipSpaces text) >>= _) = _
  rw [hskip, h]
  show (parseEntries depth (skipSpaces more) >>= _) = _
  rw [hskip', hmore]
  show Except.ok ((String.ofList key.toList, value) :: entries, rest) = _
  rw [String.ofList_toList]

mutual

/-- Reading the text of a value gives the value; the induction is on the depth. -/
theorem parseValue_render (depth : ℕ) (value : Json) (rest : List Char) (hdistinct : Distinct value)
    (hdepth : weight value ≤ depth) (hrest : Terminated rest) :
    parseValue depth (render value ++ rest) = .ok (value, rest) := by
  cases depth with
  | zero =>
    have hpos : 1 ≤ weight value := by cases value <;> simp [weight]
    omega
  | succ depth =>
    cases value with
    | null => rfl
    | bool value => cases value <;> rfl
    | number z =>
      have hnumber : render (.number z) = renderNumber z := by rw [render]
      rw [hnumber, parseValue_number, parseNumber_render z hrest]
    | string value =>
      have hstring : render (.string value) ++ rest = '"' :: (renderChars value.toList ++ rest) := by
        rw [render]
        rfl
      rw [hstring, parseValue, scanString_renderChars]
      show Except.ok (Json.string (String.ofList value.toList), rest) = _
      rw [String.ofList_toList]
    | array items =>
      cases items with
      | nil => rfl
      | cons item items =>
        have htext : render (.array (item :: items)) ++ rest =
            '[' :: (render item ++ (renderItems items ++ rest)) := by
          rw [render, List.cons_append, List.append_assoc]
        obtain ⟨c, text, hrender, -, hclose, -⟩ := head_render item
        have hopen : (render item ++ (renderItems items ++ rest)).head? ≠ some ']' := by
          rw [hrender]
          simpa using hclose
        simp only [weight] at hdepth
        rw [htext]
        exact parseValue_array (skipSpaces_render item) hopen
          (parseItems_render depth item items rest hdistinct (by omega))
    | object entries =>
      cases entries with
      | nil => rfl
      | cons entry entries =>
        obtain ⟨key, value⟩ := entry
        have htext : render (.object ((key, value) :: entries)) ++ rest = '{' :: '"' ::
            (renderChars key.toList ++ ':' :: (render value ++ (renderEntries entries ++ rest))) := by
          rw [render]
          simp [renderString]
        simp only [weight] at hdepth
        rw [htext]
        exact parseValue_object (skipSpaces_cons (by simp)) (by simp)
          (parseEntries_render depth key value entries rest hdistinct.2 (by omega)) hdistinct.1

theorem parseItems_render (depth : ℕ) (item : Json) (items : List Json) (rest : List Char)
    (hdistinct : Distinct item ∧ DistinctItems items) (hdepth : weightItems (item :: items) ≤ depth) :
    parseItems depth (render item ++ (renderItems items ++ rest)) = .ok (item :: items, rest) := by
  cases depth with
  | zero => simp [weightItems] at hdepth
  | succ depth =>
    simp only [weightItems] at hdepth
    have hitem := parseValue_render depth item (renderItems items ++ rest) hdistinct.1 (by omega)
      (terminated_renderItems items)
    cases items with
    | nil => exact parseItems_last hitem
    | cons next items =>
      have htext : renderItems (next :: items) ++ rest =
          ',' :: (render next ++ (renderItems items ++ rest)) := by
        rw [renderItems, List.cons_append, List.append_assoc]
      rw [htext] at hitem ⊢
      exact parseItems_more hitem (skipSpaces_render next)
        (parseItems_render depth next items rest hdistinct.2 (by omega))

theorem parseEntries_render (depth : ℕ) (key : String) (value : Json) (entries : List (String × Json))
    (rest : List Char) (hdistinct : Distinct value ∧ DistinctEntries entries)
    (hdepth : weightEntries ((key, value) :: entries) ≤ depth) :
    parseEntries depth ('"' :: (renderChars key.toList ++ ':' :: (render value ++
      (renderEntries entries ++ rest)))) = .ok ((key, value) :: entries, rest) := by
  cases depth with
  | zero => simp [weightEntries] at hdepth
  | succ depth =>
    simp only [weightEntries] at hdepth
    have hvalue := parseValue_render depth value (renderEntries entries ++ rest) hdistinct.1 (by omega)
      (terminated_renderEntries entries)
    cases entries with
    | nil => exact parseEntries_last (skipSpaces_render value) hvalue
    | cons entry entries =>
      obtain ⟨next, nextValue⟩ := entry
      have htext : renderEntries ((next, nextValue) :: entries) ++ rest = ',' :: '"' ::
          (renderChars next.toList ++ ':' :: (render nextValue ++ (renderEntries entries ++ rest))) := by
        rw [renderEntries]
        simp [renderString]
      rw [htext] at hvalue ⊢
      exact parseEntries_more (skipSpaces_render value) hvalue (skipSpaces_cons (by simp))
        (parseEntries_render depth next nextValue entries rest hdistinct.2 (by omega))

end

theorem loads_render_append {value : Json} (h : Distinct value) (hrest : Terminated rest)
    (hspaces : skipSpaces rest = []) : loads (String.ofList (render value ++ rest)) = .ok value := by
  obtain ⟨c, text, hrender, -, -, hnot⟩ := head_render value
  have hmark : (render value ++ rest).head? ≠ some '\ufeff' := by
    rw [hrender]
    simpa using hnot
  have hweight : weight value ≤ (render value ++ rest).length + 1 := by
    have hle := weight_le value
    rw [List.length_append]
    omega
  have hparse := parseValue_render ((render value ++ rest).length + 1) value rest h hweight hrest
  unfold loads
  rw [String.toList_ofList, if_neg hmark, skipSpaces_render value, hparse]
  show (if skipSpaces rest = [] then _ else _) = _
  rw [if_pos hspaces]
  rfl

theorem loads_render {value : Json} (h : Distinct value) :
    loads (String.ofList (render value)) = .ok value := by
  have hloads := loads_render_append h (show Terminated [] by rintro c ⟨⟩) rfl
  rwa [List.append_nil] at hloads

end RoundTripValues

section SortedKeys

variable {value other : Json}

theorem sortEntries_keys (entries : List (String × Json)) :
    (sortEntries entries).map (·.1) = entries.map (·.1) := by
  induction entries with
  | nil => rfl
  | cons entry entries ih =>
    obtain ⟨key, value⟩ := entry
    simp [sortEntries, ih]

theorem distinctItems_iff (items : List Json) : DistinctItems items ↔ ∀ item ∈ items, Distinct item := by
  induction items with
  | nil => simp [DistinctItems]
  | cons item items ih => simp [DistinctItems, ih]

theorem distinctEntries_iff (entries : List (String × Json)) :
    DistinctEntries entries ↔ ∀ entry ∈ entries, Distinct entry.2 := by
  induction entries with
  | nil => simp [DistinctEntries]
  | cons entry entries ih =>
    obtain ⟨key, value⟩ := entry
    simp [DistinctEntries, ih]

mutual

theorem distinct_sortKeys (value : Json) (h : Distinct value) : Distinct (sortKeys value) := by
  cases value with
  | array items => exact distinct_sortItems items h
  | object entries =>
    have hperm := List.perm_insertionSort (fun a b : String × Json => a.1 ≤ b.1) (sortEntries entries)
    refine ⟨?_, (distinctEntries_iff _).mpr fun entry hentry => ?_⟩
    · refine (hperm.map (·.1)).nodup_iff.mpr ?_
      rw [sortEntries_keys]
      exact h.1
    · exact (distinctEntries_iff _).mp (distinct_sortEntries entries h.2) entry (hperm.mem_iff.mp hentry)
  | null => trivial
  | bool value => trivial
  | number value => trivial
  | string value => trivial

theorem distinct_sortItems (items : List Json) (h : DistinctItems items) : DistinctItems (sortItems items) := by
  cases items with
  | nil => trivial
  | cons item items => exact ⟨distinct_sortKeys item h.1, distinct_sortItems items h.2⟩

theorem distinct_sortEntries (entries : List (String × Json)) (h : DistinctEntries entries) :
    DistinctEntries (sortEntries entries) := by
  cases entries with
  | nil => trivial
  | cons entry entries =>
    obtain ⟨key, value⟩ := entry
    exact ⟨distinct_sortKeys value h.1, distinct_sortEntries entries h.2⟩

end

theorem sortItems_eq (items : List Json) : sortItems items = items.map sortKeys := by
  induction items with
  | nil => rfl
  | cons item items ih => rw [sortItems, ih, List.map_cons]

theorem sortEntries_eq (entries : List (String × Json)) :
    sortEntries entries = entries.map fun entry => (entry.1, sortKeys entry.2) := by
  induction entries with
  | nil => rfl
  | cons entry entries ih =>
    obtain ⟨key, value⟩ := entry
    rw [sortEntries, ih, List.map_cons]

/-- The text of a value with its keys in the order they have. -/
def compactText (value : Json) : String := String.ofList (render value)

/-- Reading what was written gives the value with its keys sorted. -/
theorem loads_dumps (h : Distinct value) : loads (dumps value) = .ok (sortKeys value) :=
  loads_render (distinct_sortKeys value h)

/-- The same of the text with a line break after it. -/
theorem loads_dumps_line (h : Distinct value) : loads (dumps value ++ "\n") = .ok (sortKeys value) := by
  have hbreak : Terminated ['\n'] := by
    rintro c ⟨⟩
    exact .inr (.inr (.inr rfl))
  have hline : dumps value ++ "\n" = String.ofList (render (sortKeys value) ++ ['\n']) := by
    rw [String.ofList_append]
    rfl
  rw [hline]
  exact loads_render_append (distinct_sortKeys value h) hbreak rfl

theorem dumps_inj (h : Distinct value) (h' : Distinct other) :
    dumps value = dumps other ↔ sortKeys value = sortKeys other := by
  constructor
  · intro heq
    have hloads := loads_dumps h
    rw [heq, loads_dumps h'] at hloads
    exact (Except.ok.inj hloads).symm
  · intro heq
    unfold dumps
    rw [heq]

end SortedKeys

end JsonText
