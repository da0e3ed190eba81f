/-
The offset maps of a text:

* `fillTables`: the two tables filled in character by character, where a write outside of a table is
  a fault;
* `fillTables_eq`: there is no such write, and the tables are those of the text;
* `length_encodeUtf8_eq_iff`: octets and characters are equally many exactly if every character is
  a single octet, and then the tables map every offset to itself;
* `octetOffset_natCast`, `exists_isGreatest_charOffset`: what the maps answer, with or without
  tables;
* `take_drop_encodeUtf8`: the octets of a part of a text.

Main statement: `offsetMaps_invert`, that a text always has its maps, which lead back and forth
between its characters and the octets at which they begin.
-/
import Mathlib.Tactic
import SourceLayers.Proofs.Classification
import SourceLayers.Proofs.Encoding

namespace SourceLayers

/-! ### Filling the tables -/

/-- Writes an entry of a table that is laid out already. -/
def writeEntry (table : Array Int) (place : Nat) (entry : Int) :
    Except OffsetFault (Array Int) :=
  if h : place < table.size then .ok (table.set place entry) else .error ⟨place⟩

/-- The tables on the way, with the octet and the character that come next. -/
structure Filling where
  octet : Nat
  char : Nat
  octetToChar : Array Int
  charToOctet : Array Int

/-- Enters a character: its first octet, and itself for each of its octets. -/
def Filling.enter (filling : Filling) (c : Char) : Except OffsetFault Filling := do
  let width := (String.utf8EncodeChar c).length
  let charToOctet ← writeEntry filling.charToOctet filling.char filling.octet
  let octetToChar ← (List.range' filling.octet width).foldlM
    (fun table place => writeEntry table place filling.char) filling.octetToChar
  return { octet := filling.octet + width, char := filling.char + 1, octetToChar, charToOctet }

/-- Enters the ends: one entry more in each table, at the number of octets and of characters. -/
def Filling.close (filling : Filling) (octets chars : Nat) :
    Except OffsetFault (Array Int × Array Int) := do
  let octetToChar ← writeEntry filling.octetToChar octets chars
  let charToOctet ← writeEntry filling.charToOctet chars octets
  return (octetToChar, charToOctet)

/-- The tables of a text, from octets to characters and back. They are laid out first and then
filled in. -/
def fillTables (text : List Char) : Except OffsetFault (Array Int × Array Int) := do
  let octets := (encodeUtf8 text).length
  let filling ← text.foldlM Filling.enter
    { octet := 0, char := 0, octetToChar := Array.replicate (octets + 1) 0,
      charToOctet := Array.replicate (text.length + 1) 0 }
  filling.close octets text.length

lemma writeEntry_append (before after : List Int) (old entry : Int) :
    writeEntry (before ++ old :: after).toArray before.length entry =
      .ok (before ++ entry :: after).toArray := by
  simp [writeEntry]

/-- Writing one entry many times over, right after what was written before. -/
lemma foldlM_writeEntry (before after : List Int) (count : Nat) (entry : Int) :
    (List.range' before.length count).foldlM (fun table place => writeEntry table place entry)
        (before ++ (List.replicate count 0 ++ after)).toArray =
      .ok (before ++ (List.replicate count entry ++ after)).toArray := by
  induction count generalizing before with
  | zero => rfl
  | succ count ih =>
      have hnext := ih (before ++ [entry])
      rw [List.length_append, List.length_singleton, List.append_assoc, List.append_assoc] at hnext
      rw [List.range'_succ, List.foldlM_cons, List.replicate_succ, List.cons_append,
        writeEntry_append]
      exact hnext

/-- Entering a character changes the entries that are laid out for it and no others. -/
lemma enter_eq (octets chars octetsAfter charsAfter : List Int) (c : Char) :
    Filling.enter
        { octet := octets.length, char := chars.length
          octetToChar := (octets ++
            (List.replicate (String.utf8EncodeChar c).length 0 ++ octetsAfter)).toArray
          charToOctet := (chars ++ 0 :: charsAfter).toArray } c =
      .ok
        { octet := octets.length + (String.utf8EncodeChar c).length, char := chars.length + 1
          octetToChar := (octets ++ (List.replicate (String.utf8EncodeChar c).length
            (chars.length : Int) ++ octetsAfter)).toArray
          charToOctet := (chars ++ (octets.length : Int) :: charsAfter).toArray } := by
  simp only [Filling.enter, writeEntry_append, foldlM_writeEntry]
  rfl

/-- The invariant of the filling: what is entered so far stands at the beginning of the tables, and
after it there is room for the characters that come. From there on the tables are completed. -/
lemma foldlM_enter (octets chars : List Int) (text : List Char) :
    (text.foldlM Filling.enter
        { octet := octets.length, char := chars.length
          octetToChar := (octets ++ List.replicate ((encodeUtf8 text).length + 1) 0).toArray
          charToOctet := (chars ++ List.replicate (text.length + 1) 0).toArray } >>=
        fun filling => filling.close (octets.length + (encodeUtf8 text).length)
          (chars.length + text.length)) =
      .ok ((octets ++ octetTable chars.length text).toArray,
        (chars ++ charTable octets.length text).toArray) := by
  induction text generalizing octets chars with
  | nil =>
      have hoctets := writeEntry_append octets [] 0 chars.length
      have hchars := writeEntry_append chars [] 0 octets.length
      change Filling.close _ (octets.length + 0) (chars.length + 0) = _
      simp only [Nat.add_zero, Filling.close, encodeUtf8, List.flatMap_nil, List.length_nil,
        Nat.zero_add, List.replicate_one, hoctets, hchars]
      rfl
  | cons c rest ih =>
      have hrest := ih
        (octets ++ List.replicate (String.utf8EncodeChar c).length (chars.length : Int))
        (chars ++ [(octets.length : Int)])
      simp only [List.length_append, List.length_replicate, List.length_singleton,
        List.append_assoc, List.singleton_append] at hrest
      have hwidth : (encodeUtf8 (c :: rest)).length =
          (String.utf8EncodeChar c).length + (encodeUtf8 rest).length := by
        rw [encodeUtf8_cons, List.length_append]
      rw [List.foldlM_cons, hwidth, Nat.add_assoc _ (encodeUtf8 rest).length, List.replicate_add,
        List.length_cons, List.replicate_succ (n := rest.length + 1), enter_eq, octetTable,
        charTable, ← Nat.add_assoc, ← Nat.add_assoc, Nat.add_right_comm chars.length]
      exact hrest

/-- Every write is within its table, and the tables filled in this way are those of the text. -/
lemma fillTables_eq (text : List Char) :
    fillTables text = .ok ((octetTable 0 text).toArray, (charTable 0 text).toArray) := by
  have hfill := foldlM_enter [] [] text
  simpa [fillTables] using hfill

/-- The table from characters to octets of a text, if it has one. -/
lemma charToOctet_ofText (text : List Char) :
    (SourceText.ofText text).charToOctet =
      if (encodeUtf8 text).length = text.length then none
      else some (charTable 0 text).toArray := by
  unfold SourceText.ofText
  simp only
  split <;> rfl

/-! ### Texts of single octets -/

/-- The table that maps every offset up to `last` to itself. -/
def identityTable (last : Nat) : Array Int :=
  ((List.range' 0 (last + 1)).map Nat.cast).toArray

lemma length_utf8EncodeChar_eq_one_iff {c : Char} :
    (String.utf8EncodeChar c).length = 1 ↔ c.toNat < 0x80 := by
  rw [String.length_utf8EncodeChar, Char.utf8Size_eq_one_iff, UInt32.le_iff_toNat_le]
  exact Nat.lt_succ_iff.symm

/-- Octets and characters are equally many exactly if every character is a single octet: none has
less than one. -/
lemma length_encodeUtf8_eq_iff {text : List Char} :
    (encodeUtf8 text).length = text.length ↔ ∀ c ∈ text, c.toNat < 0x80 := by
  induction text with
  | nil => simp [encodeUtf8]
  | cons c rest ih =>
      have hwidth := length_utf8EncodeChar_pos c
      have hrest := length_le_length_encodeUtf8 rest
      rw [List.forall_mem_cons, ← ih, ← length_utf8EncodeChar_eq_one_iff, encodeUtf8_cons,
        List.length_append, List.length_cons]
      omega

/-- On single octets the tables count on. -/
lemma tables_of_single {text : List Char} (h : ∀ c ∈ text, c.toNat < 0x80) (first : Nat) :
    octetTable first text = (List.range' first (text.length + 1)).map Nat.cast ∧
      charTable first text = (List.range' first (text.length + 1)).map Nat.cast := by
  induction text generalizing first with
  | nil => exact ⟨rfl, rfl⟩
  | cons c rest ih =>
      obtain ⟨hc, hrest⟩ := List.forall_mem_cons.mp h
      obtain ⟨hoctets, hchars⟩ := ih hrest (first + 1)
      have hwidth := length_utf8EncodeChar_eq_one_iff.mpr hc
      rw [List.length_cons, List.range'_succ, List.map_cons]
      refine ⟨?_, ?_⟩
      · rw [octetTable, hwidth, hoctets]
        rfl
      · rw [charTable, hwidth, hchars]

/-! ### What the maps answer -/

/-- The table from characters to octets, at a character or the end. -/
lemma getElem?_charTable (first : Nat) (text : List Char) {i : Nat} (hi : i ≤ text.length) :
    (charTable first text)[i]? = some ((first + octetOffsetOf text i : Nat) : Int) := by
  induction text generalizing first i with
  | nil =>
      obtain rfl : i = 0 := by simpa using hi
      rfl
  | cons c rest ih =>
      cases i with
      | zero => rfl
      | succ i =>
          rw [charTable, List.getElem?_cons_succ, ih _ (by simpa using hi),
            octetOffsetOf_cons_succ, Nat.add_assoc]

/-- The octet offset of a character or of the end, with or without tables. -/
lemma octetOffset_natCast {text : List Char} {i : Nat} (hi : i ≤ text.length) :
    (SourceText.ofText text).octetOffset i = .ok (octetOffsetOf text i : Int) := by
  rw [SourceText.octetOffset, charToOctet_ofText]
  split_ifs with hplain
  · rw [SourceText.through, octetOffsetOf_eq_of_length_eq hi hplain]
  · have hentry : entryAt? (charTable 0 text).toArray i = some (octetOffsetOf text i : Int) := by
      rw [entryAt?_natCast, List.getElem?_toArray, getElem?_charTable 0 text hi, Nat.zero_add]
    simp only [SourceText.through, hentry]

/-- From an octet or the end the maps lead to the last boundary that is not after it. -/
lemma exists_isGreatest_charOffset {text : List Char} {b : Nat}
    (hb : b ≤ (encodeUtf8 text).length) :
    ∃ i ≤ text.length, (SourceText.ofText text).charOffset b = .ok (i : Int) ∧
      IsGreatest {boundary | IsBoundary text boundary ∧ boundary ≤ b} (octetOffsetOf text i) := by
  obtain ⟨i, hi, hchar, hbegin, hlast⟩ := exists_charOffset_natCast hb
  refine ⟨i, hi, hchar, ⟨⟨i, hi, rfl⟩, hbegin⟩, ?_⟩
  rintro _ ⟨⟨j, hj, rfl⟩, hjb⟩
  exact octetOffsetOf_mono text (hlast j hj hjb)

/-- The map from octets to characters keeps the order. -/
lemma charOffset_le_charOffset {text : List Char} {a b : Nat} (hab : a ≤ b)
    (hb : b ≤ (encodeUtf8 text).length) :
    ∃ i j : Nat, (SourceText.ofText text).charOffset a = .ok (i : Int) ∧
      (SourceText.ofText text).charOffset b = .ok (j : Int) ∧ i ≤ j := by
  obtain ⟨i, hi, hchar, hbegin, -⟩ := exists_charOffset_natCast (hab.trans hb)
  obtain ⟨j, -, hchar', -, hlast⟩ := exists_charOffset_natCast hb
  exact ⟨i, j, hchar, hchar', hlast i hi (hbegin.trans hab)⟩

/-! ### Octets of a part of a text -/

/-- The octets between two characters are those of the text between them. -/
lemma take_drop_encodeUtf8 (text : List Char) {i j : Nat} (hij : i ≤ j) :
    ((encodeUtf8 text).drop (octetOffsetOf text i)).take
        (octetOffsetOf text j - octetOffsetOf text i) = encodeUtf8 (cut text i j) := by
  have hsplit : encodeUtf8 text = encodeUtf8 (text.take i) ++
      (encodeUtf8 (cut text i j) ++ encodeUtf8 (text.drop j)) := by
    calc encodeUtf8 text = encodeUtf8 (text.take j ++ text.drop j) := by
          rw [List.take_append_drop]
      _ = encodeUtf8 (text.take j) ++ encodeUtf8 (text.drop j) := encodeUtf8_append _ _
      _ = _ := by rw [encodeUtf8_take_eq text hij, List.append_assoc]
  have hlength : octetOffsetOf text j - octetOffsetOf text i =
      (encodeUtf8 (cut text i j)).length := by
    rw [octetOffsetOf, octetOffsetOf, encodeUtf8_take_eq text hij, List.length_append,
      Nat.add_sub_cancel_left]
  rw [hlength, octetOffsetOf, hsplit, List.drop_left, List.take_left]

/-- **The offset maps lead back and forth**: the tables of a text can always be filled in, and they
always pass the checks on their lengths. They are left out exactly if every character is a single
octet, where they would map every offset to itself. A character is led to the octet at which it
begins and back, and an octet to the last boundary that is not after it. Both maps keep the order,
and the octets between two characters are those of the text between them. -/
theorem offsetMaps_invert (text : List Char) :
    (∃ tables, fillTables text = .ok tables ∧
      ((∀ c ∈ text, c.toNat < 0x80) →
        tables = (identityTable text.length, identityTable text.length) ∧
        SourceText.ofTables text (encodeUtf8 text) none none = .ok (SourceText.ofText text)) ∧
      (¬ (∀ c ∈ text, c.toNat < 0x80) →
        SourceText.ofTables text (encodeUtf8 text) (some tables.1) (some tables.2) =
          .ok (SourceText.ofText text))) ∧
    ((SourceText.ofText text).octetToChar = none ↔ ∀ c ∈ text, c.toNat < 0x80) ∧
    ((SourceText.ofText text).charToOctet = none ↔ ∀ c ∈ text, c.toNat < 0x80) ∧
    (∀ i ≤ text.length,
      (SourceText.ofText text).octetOffset i = .ok ((encodeUtf8 (text.take i)).length : Int) ∧
      (SourceText.ofText text).charOffset (encodeUtf8 (text.take i)).length = .ok (i : Int)) ∧
    (∀ b ≤ (encodeUtf8 text).length, ∃ i d : Nat,
      (SourceText.ofText text).charOffset b = .ok (i : Int) ∧
      (SourceText.ofText text).octetOffset i = .ok (d : Int) ∧
      IsGreatest {boundary | IsBoundary text boundary ∧ boundary ≤ b} d ∧
      (d = b ↔ IsBoundary text b)) ∧
    (∀ a b : Nat, a ≤ b → b ≤ (encodeUtf8 text).length → ∃ i j : Nat,
      (SourceText.ofText text).charOffset a = .ok (i : Int) ∧
      (SourceText.ofText text).charOffset b = .ok (j : Int) ∧ i ≤ j) ∧
    ∀ i j : Nat, i ≤ j → j ≤ text.length → ∃ a b : Nat,
      (SourceText.ofText text).octetOffset i = .ok (a : Int) ∧
      (SourceText.ofText text).octetOffset j = .ok (b : Int) ∧ a ≤ b ∧
      ((encodeUtf8 text).drop a).take (b - a) = encodeUtf8 (cut text i j) := by
  have hsame := SourceText.ofTables_self (SourceText.ofText text)
  rw [SourceText.chars_ofText, SourceText.octets_ofText] at hsame
  refine ⟨⟨_, fillTables_eq text, fun hsingle => ⟨?_, ?_⟩, fun hwide => ?_⟩, ?_, ?_,
    fun i hi => ⟨octetOffset_natCast hi, charOffset_octetOffsetOf hi⟩, fun b hb => ?_,
    fun a b hab hb => charOffset_le_charOffset hab hb, fun i j hij hj => ?_⟩
  · obtain ⟨hoctets, hchars⟩ := tables_of_single hsingle 0
    rw [hoctets, hchars, identityTable]
  · rwa [octetToChar_ofText, charToOctet_ofText, if_pos (length_encodeUtf8_eq_iff.mpr hsingle),
      if_pos (length_encodeUtf8_eq_iff.mpr hsingle)] at hsame
  · rwa [octetToChar_ofText, charToOctet_ofText,
      if_neg fun h => hwide (length_encodeUtf8_eq_iff.mp h),
      if_neg fun h => hwide (length_encodeUtf8_eq_iff.mp h)] at hsame
  · rw [octetToChar_ofText, ← length_encodeUtf8_eq_iff]
    simp
  · rw [charToOctet_ofText, ← length_encodeUtf8_eq_iff]
    simp
  · obtain ⟨i, hi, hchar, hgreatest⟩ := exists_isGreatest_charOffset hb
    refine ⟨i, _, hchar, octetOffset_natCast hi, hgreatest, ?_, fun hboundary => ?_⟩
    · rintro rfl
      exact hgreatest.1.1
    · exact le_antisymm hgreatest.1.2 (hgreatest.2 ⟨hboundary, le_rfl⟩)
  · exact ⟨_, _, octetOffset_natCast (hij.trans hj), octetOffset_natCast hj,
      octetOffsetOf_mono text hij, take_drop_encodeUtf8 text hij⟩

/-- Characters of two octets, of four, and of one. -/
def wideText : List Char :=
  "é😀x".toList

/-- An octet within the second character is led to the one at which that begins. -/
theorem offsetMaps_invert_wide :
    ¬ (∀ c ∈ wideText, c.toNat < 0x80) ∧ (SourceText.ofText wideText).charToOctet ≠ none ∧
      4 ≤ (encodeUtf8 wideText).length ∧
      ∃ i : Nat, (SourceText.ofText wideText).charOffset 4 = .ok (i : Int) ∧
        (SourceText.ofText wideText).octetOffset i = .ok 2 := by
  have hwide : ¬ (∀ c ∈ wideText, c.toNat < 0x80) := by
    intro hsingle
    exact absurd (hsingle 'é' (by decide +kernel)) (by decide)
  have hlength : 4 ≤ (encodeUtf8 wideText).length := by decide +kernel
  obtain ⟨-, -, htable, -, hoctet, -, -⟩ := offsetMaps_invert wideText
  obtain ⟨i, d, hchar, hback, hgreatest, -⟩ := hoctet 4 hlength
  have hbegin : IsGreatest {boundary | IsBoundary wideText boundary ∧ boundary ≤ 4} 2 := by
    refine ⟨⟨by decide +kernel, by decide⟩, ?_⟩
    rintro boundary ⟨hboundary, hle⟩
    by_contra hlt
    have hinside : boundary = 3 ∨ boundary = 4 := by omega
    rcases hinside with rfl | rfl
    · exact absurd hboundary (by decide +kernel)
    · exact absurd hboundary (by decide +kernel)
  obtain rfl : d = 2 := hgreatest.unique hbegin
  exact ⟨hwide, fun hnone => hwide (htable.mp hnone), hlength, i, hchar, hback⟩

end SourceLayers
