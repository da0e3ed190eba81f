/-
JSON text, written and read back:

* `Json.escapeChar_cases`: how a character of a text is written;
* `Json.Written`: a text writes a value, with any blanks between its parts. Objects have each name
  once, and there are no fractions;
* `Json.parseValue_of_written`: what is written is read back, whatever follows that does not go on
  with a number. `fuel` as long as the text is enough;
* `Json.IsPlain`: values without fractions and without repeated names;
* `Json.written_compact`, `Json.written_prettyAt`: both layouts write every plain value;
* `Json.linefeed_notMem_compact`: the compact layout stays on one line.

Main statements: `Json.parse?_compact` and `Json.parse?_pretty`, that either layout of a plain value
is read back as that value, and `Json.load?_compact`, that what could be stored is loaded again.
-/
import Mathlib.Data.List.DropRight
import Mathlib.Tactic
import SourceLayers.Json.Parser
import SourceLayers.Json.Printer
import SourceLayers.Proofs.Encoding

namespace SourceLayers.Json

/-! ### Blanks -/

/-- A character that the reader passes over between the parts of a text. -/
def isGap (c : Char) : Bool :=
  c = ' ' || c = '\t' || c = '\n' || c = '\r'

/-- A text that the reader passes over. -/
def IsBlanks (text : List Char) : Prop :=
  ∀ c ∈ text, isGap c = true

lemma isBlanks_nil : IsBlanks [] := by simp [IsBlanks]

lemma isBlanks_space : IsBlanks [' '] := by simp [IsBlanks, isGap]

lemma isBlanks_newLine (depth : Nat) : IsBlanks (newLine depth) := by
  intro c hc
  rcases List.mem_cons.mp hc with rfl | hc
  · rfl
  · rw [List.eq_of_mem_replicate hc]
    rfl

lemma skipBlanks_append {blanks : List Char} (h : IsBlanks blanks) (text : List Char) :
    skipBlanks (blanks ++ text) = skipBlanks text :=
  List.dropWhile_append_of_pos h

lemma skipBlanks_cons {c : Char} (h : isGap c = false) (text : List Char) :
    skipBlanks (c :: text) = c :: text := by
  have hgap : ¬ isGap c = true := by rw [h]; exact Bool.false_ne_true
  exact List.dropWhile_cons_of_neg hgap

lemma skipBlanks_skipBlanks (text : List Char) : skipBlanks (skipBlanks text) = skipBlanks text :=
  List.dropWhile_idempotent isGap _

/-! ### Texts -/

lemma hexValue?_digitChar {n : Nat} (h : n < 16) : hexValue? (Nat.digitChar n) = some n := by
  revert n
  decide

/-- A character is written as an escape that is read as it, by its number, or as it is. -/
lemma escapeChar_cases (c : Char) :
    (∃ d, escapeChar c = ['\\', d] ∧ escaped? d = some c) ∨
    (escapeChar c = '\\' :: 'u' :: hexDigits 4 c.toNat ∧ c.toNat < 32) ∨
    (escapeChar c = [c] ∧ c ≠ '"' ∧ c ≠ '\\' ∧ 32 ≤ c.toNat) := by
  by_cases hquote : c = '"'
  · exact Or.inl ⟨'"', by rw [hquote]; rfl, by rw [hquote]; rfl⟩
  by_cases hslash : c = '\\'
  · exact Or.inl ⟨'\\', by rw [hslash]; rfl, by rw [hslash]; rfl⟩
  by_cases hfeed : c = '\n'
  · exact Or.inl ⟨'n', by rw [hfeed]; rfl, by rw [hfeed]; rfl⟩
  by_cases hreturn : c = '\r'
  · exact Or.inl ⟨'r', by rw [hreturn]; rfl, by rw [hreturn]; rfl⟩
  by_cases htab : c = '\t'
  · exact Or.inl ⟨'t', by rw [htab]; rfl, by rw [htab]; rfl⟩
  by_cases hback : c.toNat = 8
  · obtain rfl : c = '\x08' := by rw [← Char.ofNat_toNat c, hback]
    exact Or.inl ⟨'b', rfl, rfl⟩
  by_cases hform : c.toNat = 12
  · obtain rfl : c = '\x0c' := by rw [← Char.ofNat_toNat c, hform]
    exact Or.inl ⟨'f', rfl, rfl⟩
  rw [escapeChar, if_neg hquote, if_neg hslash, if_neg hfeed, if_neg hreturn, if_neg htab,
    if_neg hback, if_neg hform]
  by_cases hcontrol : c.toNat < 32
  · exact Or.inr (Or.inl ⟨if_pos hcontrol, hcontrol⟩)
  · exact Or.inr (Or.inr ⟨if_neg hcontrol, hquote, hslash, not_lt.mp hcontrol⟩)

/-- A character is read back from its escape. -/
lemma parseChars_escapeChar (c : Char) (rest : List Char) :
    parseChars (escapeChar c ++ rest) =
      (parseChars rest).map fun (text, rest) => (c :: text, rest) := by
  rcases escapeChar_cases c with ⟨d, hc, hd⟩ | ⟨hc, hcontrol⟩ | ⟨hc, hquote, hslash, hcontrol⟩
  · rw [hc, List.cons_append, List.singleton_append, parseChars]
    · rw [hd]
    · rintro _ _ _ _ _ rfl
      cases hd
  · have hunit : hexUnit? (Nat.digitChar (c.toNat / 16 / 16 / 16 % 16))
        (Nat.digitChar (c.toNat / 16 / 16 % 16)) (Nat.digitChar (c.toNat / 16 % 16))
        (Nat.digitChar (c.toNat % 16)) = some c.toNat := by
      simp only [hexUnit?, hexValue?_digitChar (Nat.mod_lt _ (show 0 < 16 by decide)),
        Option.bind_eq_bind, Option.bind_some, Option.pure_def, Option.some.injEq]
      omega
    simp only [hc, hexDigits, List.nil_append, List.cons_append, parseChars, hunit]
    rw [if_neg (by omega), if_neg (by omega), Char.ofNat_toNat]
  · rw [hc, List.singleton_append, parseChars]
    · rw [if_neg (not_lt.mpr hcontrol)]
    · exact hquote
    · exact fun _ _ _ _ _ h _ => hslash h
    · exact fun _ _ h _ => hslash h

lemma parseChars_escaped (text : List Char) (rest : List Char) :
    parseChars (text.flatMap escapeChar ++ '"' :: rest) = some (text, rest) := by
  induction text with
  | nil => rfl
  | cons c text ih =>
      rw [List.flatMap_cons, List.append_assoc, parseChars_escapeChar, ih]
      rfl

/-! ### Whole numbers -/

/-- A text that does not go on with a number that stands before it. -/
def EndsNumber (rest : List Char) : Prop :=
  ∀ c ∈ rest.head?, c.isDigit = false ∧ c ≠ '.' ∧ c ≠ 'e' ∧ c ≠ 'E'

lemma endsNumber_cons {c : Char} (h : c.isDigit = false ∧ c ≠ '.' ∧ c ≠ 'e' ∧ c ≠ 'E')
    (rest : List Char) : EndsNumber (c :: rest) := by
  rintro d ⟨⟩
  exact h

lemma endsNumber_append {blanks rest : List Char} (hblanks : IsBlanks blanks)
    (hrest : EndsNumber rest) : EndsNumber (blanks ++ rest) := by
  cases blanks with
  | nil => exact hrest
  | cons c blanks =>
      refine endsNumber_cons ?_ _
      have hc := hblanks c List.mem_cons_self
      simp only [isGap, Bool.or_eq_true, decide_eq_true_eq] at hc
      rcases hc with ((rfl | rfl) | rfl) | rfl <;> decide

lemma spanDigits_append {digits rest : List Char} (hdigits : ∀ c ∈ digits, c.isDigit = true)
    (hrest : EndsNumber rest) : spanDigits (digits ++ rest) = (digits, rest) := by
  have hnone : rest.takeWhile Char.isDigit = [] ∧ rest.dropWhile Char.isDigit = rest := by
    cases rest with
    | nil => simp
    | cons c rest => simp [(hrest c rfl).1]
  rw [spanDigits, List.takeWhile_append_of_pos hdigits, List.dropWhile_append_of_pos hdigits,
    hnone.1, hnone.2, List.append_nil]

lemma isDigit_of_mem_digits {n : Nat} {c : Char} (h : c ∈ Nat.toDigits 10 n) : c.isDigit = true :=
  Nat.isDigit_of_mem_toDigits (by decide) (by decide) h

lemma exists_cons_digits (n : Nat) :
    ∃ c digits, Nat.toDigits 10 n = c :: digits ∧ c.isDigit = true := by
  cases hdigits : Nat.toDigits 10 n with
  | nil => exact absurd hdigits Nat.toDigits_ne_nil
  | cons c digits =>
      refine ⟨c, digits, rfl, isDigit_of_mem_digits (n := n) ?_⟩
      rw [hdigits]
      exact List.mem_cons_self

lemma digitsValue_digits (n : Nat) : digitsValue (Nat.toDigits 10 n) = n := by
  have h := Nat.ofDigitChars_ten_toDigits (n := n)
  rw [Nat.ofDigitChars_eq_foldl] at h
  rw [digitsValue]
  simpa only [Nat.mul_comm] using h

/-- Only zero is written with a zero in front. -/
lemma head?_digits {n : Nat} (h : 0 < n) : (Nat.toDigits 10 n).head? ≠ some '0' := by
  induction n using Nat.strongRecOn with
  | ind n ih =>
      rw [Nat.toDigits_eq_if (by decide)]
      split_ifs with hn
      · have hone : ∀ n < 10, 0 < n → [n.digitChar].head? ≠ some '0' := by decide
        exact hone n hn h
      · rw [List.head?_append_of_ne_nil _ Nat.toDigits_ne_nil]
        exact ih (n / 10) (by omega) (by omega)

lemma parseWhole?_digits (n : Nat) {rest : List Char} (hrest : EndsNumber rest) :
    parseWhole? (Nat.toDigits 10 n ++ rest) = some (Nat.toDigits 10 n, rest) := by
  rcases Nat.eq_zero_or_pos n with rfl | hpos
  · rfl
  · have hspan := spanDigits_append (fun c hc => isDigit_of_mem_digits (n := n) hc) hrest
    have hhead := head?_digits hpos
    obtain ⟨c, digits, hdigits, hc⟩ := exists_cons_digits n
    rw [hdigits] at hhead hspan ⊢
    rw [List.cons_append, parseWhole?]
    · rw [if_pos hc, ← List.cons_append, hspan]
    · rintro rfl
      exact hhead rfl

lemma parseUnsigned?_digits (negative : Bool) (n : Nat) {rest : List Char}
    (hrest : EndsNumber rest) :
    parseUnsigned? negative (Nat.toDigits 10 n ++ rest) =
      some (.int (if negative then -(n : Int) else n), rest) := by
  have hfraction : parseFraction? rest = some (none, rest) := by
    rw [parseFraction?.eq_def]
    split
    · exact absurd rfl (hrest '.' rfl).2.1
    · rfl
  have hexponent : parseExponent? rest = some (none, rest) := by
    rw [parseExponent?.eq_def]
    simp only
    split
    · exact absurd rfl (hrest 'e' rfl).2.2.1
    · exact absurd rfl (hrest 'E' rfl).2.2.2
    · exact absurd rfl (hrest 'e' rfl).2.2.1
    · exact absurd rfl (hrest 'E' rfl).2.2.2
    · exact absurd rfl (hrest 'e' rfl).2.2.1
    · exact absurd rfl (hrest 'E' rfl).2.2.2
    · rfl
  simp only [parseUnsigned?, parseWhole?_digits n hrest, hfraction, hexponent, digitsValue_digits,
    Option.bind_eq_bind, Option.bind_some]
  rfl

/-- The text of a whole number: its digits, after a sign if it is negative. -/
lemma toList_toString_int (value : Int) :
    (toString value).toList =
      (if value < 0 then ['-'] else []) ++ Nat.toDigits 10 value.natAbs := by
  cases value with
  | ofNat n =>
      rw [if_neg (by simp)]
      exact Nat.toList_repr
  | negSucc n =>
      rw [if_pos (Int.negSucc_lt_zero n)]
      show ("-" ++ Nat.repr (n + 1)).toList = _
      rw [String.toList_append, Nat.toList_repr]
      rfl

/-- A whole number begins with a sign or a digit. -/
lemma exists_cons_int (value : Int) :
    ∃ c more, (toString value).toList = c :: more ∧ (c = '-' ∨ c.isDigit = true) := by
  rw [toList_toString_int]
  obtain ⟨c, digits, hdigits, hc⟩ := exists_cons_digits value.natAbs
  split_ifs
  · exact ⟨'-', _, rfl, Or.inl rfl⟩
  · exact ⟨c, digits, hdigits, Or.inr hc⟩

lemma parseNumber?_int (value : Int) {rest : List Char} (hrest : EndsNumber rest) :
    parseNumber? ((toString value).toList ++ rest) = some (.int value, rest) := by
  rw [toList_toString_int]
  split_ifs with hneg
  · rw [List.singleton_append, List.cons_append, parseNumber?, parseUnsigned?_digits true _ hrest,
      if_pos rfl]
    congr 3
    omega
  · have hvalue := parseUnsigned?_digits false value.natAbs hrest
    obtain ⟨c, digits, hdigits, hc⟩ := exists_cons_digits value.natAbs
    rw [hdigits, List.cons_append] at hvalue
    rw [List.nil_append, hdigits, List.cons_append, parseNumber?, hvalue, if_neg (by simp)]
    · congr 3
      omega
    · rintro _ ⟨rfl, -⟩
      exact absurd hc (by decide)

/-! ### Written values -/

mutual
/-- A text that writes a value. -/
inductive Written : Json → List Char → Prop
  | null : Written .null "null".toList
  | yes : Written (.bool true) "true".toList
  | no : Written (.bool false) "false".toList
  | int (value : Int) : Written (.int value) (toString value).toList
  | str (text : String) : Written (.str text) (renderText text)
  | emptyArr : Written (.arr []) ['[', ']']
  | arr {items : List Json} {text : List Char} :
      WrittenItems items text → Written (.arr items) ('[' :: text)
  | emptyObj : Written (.obj []) ['\x7b', '\x7d']
  | obj {fields : List (String × Json)} {text : List Char} :
      (fields.map Prod.fst).Nodup → WrittenFields fields text →
        Written (.obj fields) ('\x7b' :: text)

/-- A text that writes the items of a list, at least one, up to its end. -/
inductive WrittenItems : List Json → List Char → Prop
  | last {item : Json} {before text after : List Char} :
      IsBlanks before → Written item text → IsBlanks after →
        WrittenItems [item] (before ++ (text ++ (after ++ [']'])))
  | cons {item : Json} {items : List Json} {before text more : List Char} :
      IsBlanks before → Written item text → WrittenItems items more →
        WrittenItems (item :: items) (before ++ (text ++ ',' :: more))

/-- A text that writes the fields of an object, at least one, up to its end. -/
inductive WrittenFields : List (String × Json) → List Char → Prop
  | last (name : String) {value : Json} {before between text after : List Char} :
      IsBlanks before → IsBlanks between → Written value text → IsBlanks after →
        WrittenFields [(name, value)]
          (before ++ (renderText name ++ ':' :: (between ++ (text ++ (after ++ ['\x7d'])))))
  | cons (name : String) {value : Json} {fields : List (String × Json)}
      {before between text more : List Char} :
      IsBlanks before → IsBlanks between → Written value text → WrittenFields fields more →
        WrittenFields ((name, value) :: fields)
          (before ++ (renderText name ++ ':' :: (between ++ (text ++ ',' :: more))))
end

/-- Whether a value may begin with a character: it is no gap and ends neither a list nor an
object. -/
def mayStart (c : Char) : Bool :=
  !isGap c && c != ']' && c != '\x7d'

lemma mayStart_number {c : Char} (h : c = '-' ∨ c.isDigit = true) : mayStart c = true := by
  rcases h with rfl | h
  · rfl
  · have hne : ∀ d : Char, d.isDigit = false → c ≠ d := by
      rintro d hd rfl
      exact absurd h (by rw [hd]; exact Bool.false_ne_true)
    simp [mayStart, isGap, hne ' ' rfl, hne '\t' rfl, hne '\n' rfl, hne '\r' rfl, hne ']' rfl,
      hne '\x7d' rfl]

lemma isGap_of_mayStart {c : Char} (h : mayStart c = true) : isGap c = false := by
  simp only [mayStart, Bool.and_eq_true, Bool.not_eq_true'] at h
  exact h.1.1

lemma Written.exists_cons {value : Json} {text : List Char} (h : Written value text) :
    ∃ c more, text = c :: more ∧ mayStart c = true := by
  cases h with
  | null => exact ⟨'n', _, rfl, rfl⟩
  | yes => exact ⟨'t', _, rfl, rfl⟩
  | no => exact ⟨'f', _, rfl, rfl⟩
  | int value =>
      obtain ⟨c, more, htext, hc⟩ := exists_cons_int value
      exact ⟨c, more, htext, mayStart_number hc⟩
  | str text => exact ⟨'"', _, rfl, rfl⟩
  | emptyArr => exact ⟨'[', _, rfl, rfl⟩
  | arr _ => exact ⟨'[', _, rfl, rfl⟩
  | emptyObj => exact ⟨'\x7b', _, rfl, rfl⟩
  | obj _ _ => exact ⟨'\x7b', _, rfl, rfl⟩

/-- Blanks before a value are passed over, and nothing of the value. -/
lemma Written.skipBlanks_append {value : Json} {text blanks : List Char} (h : Written value text)
    (hblanks : IsBlanks blanks) (rest : List Char) :
    skipBlanks (blanks ++ (text ++ rest)) = text ++ rest := by
  obtain ⟨c, more, rfl, hc⟩ := h.exists_cons
  rw [Json.skipBlanks_append hblanks, List.cons_append, skipBlanks_cons (isGap_of_mayStart hc)]

lemma skipBlanks_renderText {blanks : List Char} (h : IsBlanks blanks) (name : String)
    (rest : List Char) :
    skipBlanks (blanks ++ (renderText name ++ rest)) =
      '"' :: (name.toList.flatMap escapeChar ++ '"' :: rest) := by
  rw [skipBlanks_append h, renderText, List.cons_append, List.cons_append,
    skipBlanks_cons (by decide), List.append_assoc]
  rfl

lemma WrittenItems.exists_skipBlanks {items : List Json} {text : List Char}
    (h : WrittenItems items text) (rest : List Char) :
    ∃ c more, skipBlanks (text ++ rest) = c :: more ∧ mayStart c = true := by
  cases h with
  | last hbefore hitem _ | cons hbefore hitem _ =>
      obtain ⟨c, more, htext, hc⟩ := hitem.exists_cons
      rw [List.append_assoc, List.append_assoc, hitem.skipBlanks_append hbefore, htext]
      exact ⟨c, _, rfl, hc⟩

lemma WrittenFields.exists_skipBlanks {fields : List (String × Json)} {text : List Char}
    (h : WrittenFields fields text) (rest : List Char) :
    ∃ more, skipBlanks (text ++ rest) = '"' :: more := by
  cases h with
  | last _ hbefore _ _ _ | cons _ hbefore _ _ _ =>
      rw [List.append_assoc, List.append_assoc, skipBlanks_renderText hbefore]
      exact ⟨_, rfl⟩

/-! ### One step of the reader -/

section Steps

variable {fuel : Nat} {text rest more gap : List Char} {item value : Json} {items : List Json}
  {name : String} {fields known : List (String × Json)} {c : Char}

lemma parseValue_skipBlanks (fuel : Nat) (text : List Char) :
    parseValue fuel (skipBlanks text) = parseValue fuel text := by
  cases fuel with
  | zero => rw [parseValue, parseValue]
  | succ fuel => rw [parseValue, parseValue, skipBlanks_skipBlanks]

lemma parseItems_skipBlanks (fuel : Nat) (text : List Char) :
    parseItems fuel (skipBlanks text) = parseItems fuel text := by
  cases fuel with
  | zero => rw [parseItems, parseItems]
  | succ fuel => rw [parseItems, parseItems, parseValue_skipBlanks]

lemma parseFields_skipBlanks (fuel : Nat) (known : List (String × Json)) (text : List Char) :
    parseFields fuel known (skipBlanks text) = parseFields fuel known text := by
  cases fuel with
  | zero => rw [parseFields, parseFields]
  | succ fuel => rw [parseFields, parseFields, skipBlanks_skipBlanks]

/-- A text that begins with a sign or a digit is read as a number. -/
lemma parseValue_number (hc : c = '-' ∨ c.isDigit = true) :
    parseValue (fuel + 1) (c :: more) = parseNumber? (c :: more) := by
  have hne : ∀ d : Char, d ≠ '-' → d.isDigit = false → c ≠ d := by
    rintro d hsign hdigit rfl
    rcases hc with rfl | hc
    · exact hsign rfl
    · exact absurd hc (by rw [hdigit]; exact Bool.false_ne_true)
  rw [parseValue, skipBlanks_cons (isGap_of_mayStart (mayStart_number hc))]
  split
  · next heq => exact absurd (List.cons.inj heq).1 (hne 'n' (by decide) rfl)
  · next heq => exact absurd (List.cons.inj heq).1 (hne 't' (by decide) rfl)
  · next heq => exact absurd (List.cons.inj heq).1 (hne 'f' (by decide) rfl)
  · next heq => exact absurd (List.cons.inj heq).1 (hne '"' (by decide) rfl)
  · next heq => exact absurd (List.cons.inj heq).1 (hne '[' (by decide) rfl)
  · next heq => exact absurd (List.cons.inj heq).1 (hne '\x7b' (by decide) rfl)
  · rfl

lemma parseValue_int (fuel : Nat) (value : Int) (hrest : EndsNumber rest) :
    parseValue (fuel + 1) ((toString value).toList ++ rest) = some (.int value, rest) := by
  have hnumber := parseNumber?_int value hrest
  obtain ⟨c, more, htext, hc⟩ := exists_cons_int value
  rw [htext, List.cons_append] at hnumber ⊢
  rw [parseValue_number hc, hnumber]

lemma parseValue_str (fuel : Nat) (text : String) (rest : List Char) :
    parseValue (fuel + 1) (renderText text ++ rest) = some (.str text, rest) := by
  have hskip := skipBlanks_renderText isBlanks_nil text rest
  rw [List.nil_append] at hskip
  rw [parseValue, hskip]
  simp only [parseChars_escaped, Option.map_some, String.ofList_toList]

lemma parseValue_arr (hskip : skipBlanks text = c :: more) (hc : mayStart c = true)
    (hitems : parseItems fuel text = some (items, rest)) :
    parseValue (fuel + 1) ('[' :: text) = some (.arr items, rest) := by
  have hclose : c ≠ ']' := by
    simp only [mayStart, Bool.and_eq_true, bne_iff_ne] at hc
    exact hc.1.2
  rw [← parseItems_skipBlanks, hskip] at hitems
  rw [parseValue, skipBlanks_cons (by decide)]
  simp only [hskip]
  split
  · next heq => exact absurd (List.cons.inj heq).1 hclose
  · rw [hitems]
    rfl

lemma parseValue_obj (hskip : skipBlanks text = '"' :: more)
    (hfields : parseFields fuel [] text = some (fields, rest)) :
    parseValue (fuel + 1) ('\x7b' :: text) = some (.obj fields, rest) := by
  rw [← parseFields_skipBlanks, hskip] at hfields
  rw [parseValue, skipBlanks_cons (by decide)]
  simp only [hskip]
  exact congrArg (Option.map _) hfields

lemma parseItems_last (hitem : parseValue fuel text = some (item, gap ++ ']' :: rest))
    (hgap : IsBlanks gap) : parseItems (fuel + 1) text = some ([item], rest) := by
  rw [parseItems, hitem]
  simp only [skipBlanks_append hgap, skipBlanks_cons (c := ']') (by decide)]

lemma parseItems_cons (hitem : parseValue fuel text = some (item, ',' :: more))
    (hitems : parseItems fuel more = some (items, rest)) :
    parseItems (fuel + 1) text = some (item :: items, rest) := by
  rw [parseItems, hitem]
  simp only [skipBlanks_cons (c := ',') (by decide), hitems, Option.map_some]

lemma insertField_of_notMem (h : name ∉ known.map Prod.fst) :
    insertField known name value = known ++ [(name, value)] := by
  induction known with
  | nil => rfl
  | cons field known ih =>
      rw [List.map_cons, List.mem_cons, not_or] at h
      rw [insertField, if_neg (Ne.symm h.1), ih h.2, List.cons_append]

/-- A name that comes after others in a list without repetitions is none of them. -/
lemma notMem_of_nodup_append (h : ((known ++ (name, value) :: fields).map Prod.fst).Nodup) :
    name ∉ known.map Prod.fst := by
  rw [List.map_append, List.map_cons, List.nodup_append] at h
  intro hmem
  exact h.2.2 name hmem name List.mem_cons_self rfl

variable {text' : List Char}

lemma parseFields_last (hname : name ∉ known.map Prod.fst)
    (hskip : skipBlanks text = '"' :: (name.toList.flatMap escapeChar ++ '"' :: ':' :: text'))
    (hvalue : parseValue fuel text' = some (value, gap ++ '\x7d' :: rest)) (hgap : IsBlanks gap) :
    parseFields (fuel + 1) known text = some (known ++ [(name, value)], rest) := by
  rw [parseFields, hskip]
  simp only [parseChars_escaped, skipBlanks_cons (c := ':') (by decide), hvalue,
    skipBlanks_append hgap, skipBlanks_cons (c := '\x7d') (by decide), String.ofList_toList,
    insertField_of_notMem hname]

lemma parseFields_cons (hname : name ∉ known.map Prod.fst)
    (hskip : skipBlanks text = '"' :: (name.toList.flatMap escapeChar ++ '"' :: ':' :: text'))
    (hvalue : parseValue fuel text' = some (value, ',' :: more)) :
    parseFields (fuel + 1) known text = parseFields fuel (known ++ [(name, value)]) more := by
  rw [parseFields, hskip]
  simp only [parseChars_escaped, skipBlanks_cons (c := ':') (by decide), hvalue,
    skipBlanks_cons (c := ',') (by decide), String.ofList_toList, insertField_of_notMem hname]

end Steps

/-! ### Reading back -/

-- A part is shorter than the whole, so that the fuel that is left is enough for it.
mutual
/-- **A written value is read back**, after any blanks and before anything that does not go on with
a number. -/
theorem parseValue_of_written {value : Json} {text blanks rest : List Char} (fuel : Nat)
    (h : Written value text) (hblanks : IsBlanks blanks) (hrest : EndsNumber rest)
    (hfuel : text.length ≤ fuel) :
    parseValue fuel (blanks ++ (text ++ rest)) = some (value, rest) := by
  rw [← parseValue_skipBlanks, h.skipBlanks_append hblanks]
  match fuel, h with
  | 0, h =>
    obtain ⟨c, more, rfl, -⟩ := h.exists_cons
    exact absurd hfuel (by simp)
  | fuel + 1, .null => rfl
  | fuel + 1, .yes => rfl
  | fuel + 1, .no => rfl
  | fuel + 1, .int value => exact parseValue_int fuel value hrest
  | fuel + 1, .str text => exact parseValue_str fuel text rest
  | fuel + 1, .emptyArr => rfl
  | fuel + 1, .arr hitems =>
    obtain ⟨c, more, hskip, hc⟩ := hitems.exists_skipBlanks rest
    exact parseValue_arr hskip hc (parseItems_of_written fuel hitems (by simpa using hfuel))
  | fuel + 1, .emptyObj => rfl
  | fuel + 1, .obj hnames hfields =>
    obtain ⟨more, hskip⟩ := hfields.exists_skipBlanks rest
    exact parseValue_obj hskip
      (parseFields_of_written fuel hfields hnames (by simpa using hfuel))

/-- The same for the items of a list. -/
theorem parseItems_of_written {items : List Json} {text rest : List Char} (fuel : Nat)
    (h : WrittenItems items text) (hfuel : text.length ≤ fuel) :
    parseItems fuel (text ++ rest) = some (items, rest) := by
  match fuel, h with
  | 0, .last .. | 0, .cons .. => exact absurd hfuel (by simp)
  | fuel + 1, .last hbefore hitem hafter =>
    simp only [List.length_append, List.length_singleton] at hfuel
    have hend := endsNumber_append hafter (endsNumber_cons (c := ']') (by decide) rest)
    have hvalue := parseValue_of_written fuel hitem hbefore hend (by omega)
    simp only [List.append_assoc, List.singleton_append]
    exact parseItems_last hvalue hafter
  | fuel + 1, @WrittenItems.cons _ _ _ _ more hbefore hitem hitems =>
    simp only [List.length_append, List.length_cons] at hfuel
    have hend := endsNumber_cons (c := ',') (by decide) (more ++ rest)
    have hvalue := parseValue_of_written fuel hitem hbefore hend (by omega)
    simp only [List.append_assoc, List.cons_append]
    exact parseItems_cons hvalue (parseItems_of_written fuel hitems (by omega))

/-- The same for the fields of an object, which come after those already known. -/
theorem parseFields_of_written {known fields : List (String × Json)} {text rest : List Char}
    (fuel : Nat) (h : WrittenFields fields text) (hnames : ((known ++ fields).map Prod.fst).Nodup)
    (hfuel : text.length ≤ fuel) :
    parseFields fuel known (text ++ rest) = some (known ++ fields, rest) := by
  match fuel, h with
  | 0, .last .. | 0, .cons .. => exact absurd hfuel (by simp)
  | fuel + 1, .last _ hbefore hbetween hvalue hafter =>
    simp only [List.length_append, List.length_cons] at hfuel
    have hend := endsNumber_append hafter (endsNumber_cons (c := '\x7d') (by decide) rest)
    have hparsed := parseValue_of_written fuel hvalue hbetween hend (by omega)
    simp only [List.append_assoc, List.cons_append, List.nil_append]
    exact parseFields_last (notMem_of_nodup_append hnames) (skipBlanks_renderText hbefore _ _)
      hparsed hafter
  | fuel + 1, @WrittenFields.cons _ _ _ _ _ _ more hbefore hbetween hvalue hfields =>
    simp only [List.length_append, List.length_cons] at hfuel
    have hend := endsNumber_cons (c := ',') (by decide) (more ++ rest)
    have hparsed := parseValue_of_written fuel hvalue hbetween hend (by omega)
    simp only [List.append_assoc, List.cons_append]
    rw [parseFields_cons (notMem_of_nodup_append hnames) (skipBlanks_renderText hbefore _ _)
        hparsed,
      parseFields_of_written fuel hfields (by simpa using hnames) (by omega)]
    simp
end

/-- A text that writes a value is read as that value. -/
lemma Written.parse?_eq {value : Json} {text after : List Char} (h : Written value text)
    (hafter : IsBlanks after) : parse? (text ++ after) = some value := by
  have hend : EndsNumber after := by
    have hnil : EndsNumber [] := by simp [EndsNumber]
    simpa using endsNumber_append hafter hnil
  have hvalue := parseValue_of_written (2 * (text ++ after).length + 2) h isBlanks_nil hend
    (by rw [List.length_append]; omega)
  have hskip : skipBlanks after = [] := by
    have happend := Json.skipBlanks_append hafter []
    rwa [List.append_nil] at happend
  rw [List.nil_append] at hvalue
  rw [parse?, hvalue]
  simp only [hskip, List.isEmpty_nil, if_true]

/-! ### Both layouts -/

mutual
/-- A value without fractions, where every object has each name once. -/
def IsPlain : Json → Prop
  | .decimal _ => False
  | .arr items => IsPlainItems items
  | .obj fields => (fields.map Prod.fst).Nodup ∧ IsPlainFields fields
  | _ => True

/-- The same for all items of a list. -/
def IsPlainItems : List Json → Prop
  | [] => True
  | item :: rest => IsPlain item ∧ IsPlainItems rest

/-- The same for the values in all fields of an object. -/
def IsPlainFields : List (String × Json) → Prop
  | [] => True
  | (_, value) :: rest => IsPlain value ∧ IsPlainFields rest
end

lemma isPlainItems_iff {items : List Json} : IsPlainItems items ↔ ∀ item ∈ items, IsPlain item := by
  induction items with
  | nil => simp [IsPlainItems]
  | cons item rest ih => rw [IsPlainItems, ih, List.forall_mem_cons]

-- The text of several items or fields is split at its first comma, behind which stands the text of
-- the others.
mutual
/-- The compact text of a plain value is a text of it. -/
theorem written_compact : ∀ {value : Json}, IsPlain value → Written value (compact value)
  | .null, _ => .null
  | .bool true, _ => .yes
  | .bool false, _ => .no
  | .int value, _ => .int value
  | .decimal _, h => absurd h (by simp [IsPlain])
  | .str text, _ => .str text
  | .arr [], _ => .emptyArr
  | .arr (item :: rest), h => .arr (writtenItems_compact (List.cons_ne_nil item rest) h)
  | .obj [], _ => .emptyObj
  | .obj (field :: rest), h =>
    .obj h.1 (writtenFields_compact (List.cons_ne_nil field rest) h.2)

/-- The same for the items of an array. -/
theorem writtenItems_compact : ∀ {items : List Json}, items ≠ [] → IsPlainItems items →
    WrittenItems items (compactItems false items)
  | [], hne, _ => absurd rfl hne
  | [_], _, h => .last isBlanks_nil (written_compact h.1) isBlanks_nil
  | _ :: next :: rest, _, h =>
    .cons isBlanks_nil (written_compact h.1)
      (writtenItems_compact (List.cons_ne_nil next rest) h.2)

/-- The same for the fields of an object. -/
theorem writtenFields_compact : ∀ {fields : List (String × Json)}, fields ≠ [] →
    IsPlainFields fields → WrittenFields fields (compactFields false fields)
  | [], hne, _ => absurd rfl hne
  | [(name, value)], _, h => by
    have hlast := WrittenFields.last name isBlanks_nil isBlanks_nil (written_compact h.1)
      isBlanks_nil
    simpa [compactFields] using hlast
  | (name, value) :: next :: rest, _, h => by
    have hmore := writtenFields_compact (List.cons_ne_nil next rest) h.2
    have hcons := WrittenFields.cons name isBlanks_nil isBlanks_nil (written_compact h.1) hmore
    simpa [compactFields] using hcons
end

mutual
/-- The text over several lines is a text of the value, however far it is indented. -/
theorem written_prettyAt (depth : Nat) : ∀ {value : Json}, IsPlain value →
    Written value (prettyAt depth value)
  | .null, _ => .null
  | .bool true, _ => .yes
  | .bool false, _ => .no
  | .int value, _ => .int value
  | .decimal _, h => absurd h (by simp [IsPlain])
  | .str text, _ => .str text
  | .arr [], _ => .emptyArr
  | .arr (item :: rest), h => by
    have hitems := writtenItems_pretty depth (List.cons_ne_nil item rest) h
    simpa [prettyAt, prettyItems] using Written.arr hitems
  | .obj [], _ => .emptyObj
  | .obj ((name, value) :: rest), h => by
    have hfields := writtenFields_pretty depth (List.cons_ne_nil (name, value) rest) h.2
    simpa [prettyAt, prettyFields] using Written.obj h.1 hfields

/-- The same for the items of an array. -/
theorem writtenItems_pretty (depth : Nat) : ∀ {items : List Json}, items ≠ [] →
    IsPlainItems items → WrittenItems items (prettyItems depth items).tail
  | [], hne, _ => absurd rfl hne
  | [_], _, h => by
    have hlast := WrittenItems.last (isBlanks_newLine (depth + 1))
      (written_prettyAt (depth + 1) h.1) (isBlanks_newLine depth)
    simpa [prettyItems] using hlast
  | _ :: next :: rest, _, h => by
    have hmore := writtenItems_pretty depth (List.cons_ne_nil next rest) h.2
    have hcons := WrittenItems.cons (isBlanks_newLine (depth + 1))
      (written_prettyAt (depth + 1) h.1) hmore
    simpa [prettyItems] using hcons

/-- The same for the fields of an object. -/
theorem writtenFields_pretty (depth : Nat) : ∀ {fields : List (String × Json)}, fields ≠ [] →
    IsPlainFields fields → WrittenFields fields (prettyFields depth fields).tail
  | [], hne, _ => absurd rfl hne
  | [(name, value)], _, h => by
    have hlast := WrittenFields.last name (isBlanks_newLine (depth + 1)) isBlanks_space
      (written_prettyAt (depth + 1) h.1) (isBlanks_newLine depth)
    simpa [prettyFields] using hlast
  | (name, value) :: (next, other) :: rest, _, h => by
    have hmore := writtenFields_pretty depth (List.cons_ne_nil (next, other) rest) h.2
    have hcons := WrittenFields.cons name (isBlanks_newLine (depth + 1)) isBlanks_space
      (written_prettyAt (depth + 1) h.1) hmore
    simpa [prettyFields] using hcons
end

/-- **The compact layout is read back.** -/
lemma parse?_compact {value : Json} (h : IsPlain value) : parse? (compact value) = some value := by
  simpa using (written_compact h).parse?_eq isBlanks_nil

/-- **The layout over lines is read back**, with a line feed after it. -/
lemma parse?_pretty {value : Json} (h : IsPlain value) :
    parse? (pretty value ++ ['\n']) = some value :=
  (written_prettyAt 0 h).parse?_eq (by simp [IsBlanks, isGap])

/-! ### One line -/

lemma linefeed_notMem_escapeChar (c : Char) : '\n' ∉ escapeChar c := by
  rcases escapeChar_cases c with ⟨d, hc, hd⟩ | ⟨hc, -⟩ | ⟨hc, -, -, hcontrol⟩
  · have hne : '\n' ≠ d := by
      rintro rfl
      cases hd
    simp [hc, hne]
  · have hdigit : ∀ n < 16, '\n' ≠ Nat.digitChar n := by decide
    simp [hc, hexDigits, hdigit _ (Nat.mod_lt _ (show 0 < 16 by decide))]
  · rw [hc, List.mem_singleton]
    rintro rfl
    exact absurd hcontrol (by decide)

lemma linefeed_notMem_renderText (text : String) : '\n' ∉ renderText text := by
  simp [renderText, linefeed_notMem_escapeChar]

lemma linefeed_notMem_int (value : Int) : '\n' ∉ (toString value).toList := by
  rw [toList_toString_int]
  intro h
  rcases List.mem_append.mp h with h | h
  · split_ifs at h <;> simp at h
  · exact absurd (isDigit_of_mem_digits h) (by decide)

mutual
/-- The compact text stands on one line. -/
theorem linefeed_notMem_compact : ∀ {value : Json}, IsPlain value → '\n' ∉ compact value
  | .null, _ => by decide
  | .bool true, _ => by decide
  | .bool false, _ => by decide
  | .int value, _ => linefeed_notMem_int value
  | .decimal _, h => absurd h (by simp [IsPlain])
  | .str text, _ => linefeed_notMem_renderText text
  | .arr items, h => by
    have hitems := linefeed_notMem_compactItems false h
    simpa [compact] using hitems
  | .obj fields, h => by
    have hfields := linefeed_notMem_compactFields false h.2
    simpa [compact] using hfields

/-- The same for the items of an array, with a comma before them or not. -/
theorem linefeed_notMem_compactItems (more : Bool) : ∀ {items : List Json}, IsPlainItems items →
    '\n' ∉ compactItems more items
  | [], _ => by simp [compactItems]
  | item :: rest, h => by
    have hitem := linefeed_notMem_compact h.1
    have hrest := linefeed_notMem_compactItems true h.2
    cases more <;> simp [compactItems, hitem, hrest]

/-- The same for the fields of an object. -/
theorem linefeed_notMem_compactFields (more : Bool) : ∀ {fields : List (String × Json)},
    IsPlainFields fields → '\n' ∉ compactFields more fields
  | [], _ => by simp [compactFields]
  | (name, value) :: rest, h => by
    have hname := linefeed_notMem_renderText name
    have hvalue := linefeed_notMem_compact h.1
    have hrest := linefeed_notMem_compactFields true h.2
    cases more <;> simp [compactFields, hname, hvalue, hrest]
end

/-! ### Loading what could be stored -/

lemma writeFault?_nat {value : Nat} (levels : Nat) (h : value < 2 ^ 64) :
    writeFault? levels (.nat value) = none := by
  rw [nat, writeFault?, if_pos]
  simp only [intFits64, Bool.and_eq_true, decide_eq_true_eq]
  omega

lemma writeFaultItems?_eq_none_iff {levels : Nat} {items : List Json} :
    writeFaultItems? levels items = none ↔ ∀ item ∈ items, writeFault? levels item = none := by
  induction items with
  | nil => simp [writeFaultItems?]
  | cons item rest ih =>
      rw [writeFaultItems?, Option.or_eq_none_iff, ih, List.forall_mem_cons]

lemma writeFaultFields?_eq_none_iff {levels : Nat} {fields : List (String × Json)} :
    writeFaultFields? levels fields = none ↔
      ∀ field ∈ fields, writeFault? levels field.2 = none := by
  induction fields with
  | nil => simp [writeFaultFields?]
  | cons field rest ih =>
      rw [writeFaultFields?, Option.or_eq_none_iff, ih, List.forall_mem_cons]

mutual
/-- What can be written is loaded as it is. -/
theorem widen64?_of_writeFault? : ∀ {levels : Nat} {value : Json}, writeFault? levels value = none →
    widen64? value = some value
  | _, .null, _ => rfl
  | _, .bool _, _ => rfl
  | levels, .int value, h => by
    rw [writeFault?] at h
    rw [widen64?]
    split_ifs at h ⊢
    rfl
  | _, .decimal _, _ => rfl
  | _, .str _, _ => rfl
  | levels, .arr items, h => by
    rw [writeFault?] at h
    split_ifs at h
    rw [widen64?, widen64Items?_of_writeFault? h]
    rfl
  | levels, .obj fields, h => by
    rw [writeFault?] at h
    split_ifs at h
    rw [widen64?, widen64Fields?_of_writeFault? h]
    rfl

/-- The same for the items of an array. -/
theorem widen64Items?_of_writeFault? : ∀ {levels : Nat} {items : List Json},
    writeFaultItems? levels items = none → widen64Items? items = some items
  | _, [], _ => rfl
  | levels, item :: rest, h => by
    rw [writeFaultItems?, Option.or_eq_none_iff] at h
    simp only [widen64Items?, widen64?_of_writeFault? h.1, widen64Items?_of_writeFault? h.2]

/-- The same for the fields of an object. -/
theorem widen64Fields?_of_writeFault? : ∀ {levels : Nat} {fields : List (String × Json)},
    writeFaultFields? levels fields = none → widen64Fields? fields = some fields
  | _, [], _ => rfl
  | levels, (name, value) :: rest, h => by
    rw [writeFaultFields?, Option.or_eq_none_iff] at h
    simp only [widen64Fields?, widen64?_of_writeFault? h.1, widen64Fields?_of_writeFault? h.2]
end

mutual
/-- What can be written is no deeper than the levels that there are for it. -/
theorem depth_le_of_writeFault? : ∀ {levels : Nat} {value : Json},
    writeFault? levels value = none → depth value ≤ levels
  | _, .null, _ | _, .bool _, _ | _, .int _, _ | _, .decimal _, _ | _, .str _, _ => Nat.zero_le _
  | levels, .arr items, h => by
    rw [writeFault?] at h
    split_ifs at h
    have hitems := depthItems_le_of_writeFault? h
    rw [depth]
    omega
  | levels, .obj fields, h => by
    rw [writeFault?] at h
    split_ifs at h
    have hfields := depthFields_le_of_writeFault? h
    rw [depth]
    omega

/-- The same for the items of an array. -/
theorem depthItems_le_of_writeFault? : ∀ {levels : Nat} {items : List Json},
    writeFaultItems? levels items = none → depthItems items ≤ levels
  | _, [], _ => Nat.zero_le _
  | levels, item :: rest, h => by
    rw [writeFaultItems?, Option.or_eq_none_iff] at h
    rw [depthItems]
    exact max_le (depth_le_of_writeFault? h.1) (depthItems_le_of_writeFault? h.2)

/-- The same for the fields of an object. -/
theorem depthFields_le_of_writeFault? : ∀ {levels : Nat} {fields : List (String × Json)},
    writeFaultFields? levels fields = none → depthFields fields ≤ levels
  | _, [], _ => Nat.zero_le _
  | levels, (name, value) :: rest, h => by
    rw [writeFaultFields?, Option.or_eq_none_iff] at h
    rw [depthFields]
    exact max_le (depth_le_of_writeFault? h.1) (depthFields_le_of_writeFault? h.2)
end

/-- **A plain value that can be written is loaded again from its octets.** -/
lemma load?_compact {value : Json} (hplain : IsPlain value)
    (hwrite : value.writeFault? maxWrittenDepth = none) :
    load? (encodeUtf8 (compact value)) = some value := by
  have hdepth : value.depth ≤ maxReadDepth :=
    (depth_le_of_writeFault? hwrite).trans (by decide)
  rw [load?, parseOctets?, decodeUtf8_encodeUtf8]
  simp only [parse?_compact hplain, Option.bind_some, widen64?_of_writeFault? hwrite, if_pos hdepth]

end SourceLayers.Json
