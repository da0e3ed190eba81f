/-
Placing a tree on its text:

* `octetOffsetOf`: the number of octets before a character of a text, which grows with the character
  (`octetOffsetOf_add_le`);
* `exists_charOffset_natCast`: the map from octets to characters leads to the last character that
  does not begin after an octet, whether or not the text has tables;
* `charOffset_octetOffsetOf`: so it leads back from where a character begins;
* `OnBoundaries`: every offset of a tree, counted in octets, is that of a character or of the end;
* `mapOffsets_eq_ok_iff`: a moved tree has its offsets moved and nothing else, so that what holds
  all over a tree is carried over (`everywhere_of_mapOffsets`);
* `exists_mapOffsets`: a tree can be moved where each of its offsets can be.

Main statement: `exists_place`, that a tree on the boundaries of a text can be placed on it and then
lies within it.
-/
import Mathlib.Tactic
import SourceLayers.Document.Basic
import SourceLayers.Proofs.Encoding
import SourceLayers.Proofs.Outcome
import SourceLayers.Proofs.Tree

namespace SourceLayers

/-! ### Octets before a character -/

/-- The number of octets of the first `i` characters. -/
def octetOffsetOf (text : List Char) (i : Nat) : Nat :=
  (encodeUtf8 (text.take i)).length

@[simp] lemma octetOffsetOf_zero (text : List Char) : octetOffsetOf text 0 = 0 := rfl

@[simp] lemma octetOffsetOf_cons_succ (c : Char) (rest : List Char) (i : Nat) :
    octetOffsetOf (c :: rest) (i + 1) =
      (String.utf8EncodeChar c).length + octetOffsetOf rest i := by
  simp [octetOffsetOf, encodeUtf8]

lemma length_utf8EncodeChar_pos (c : Char) : 0 < (String.utf8EncodeChar c).length := by
  rw [String.length_utf8EncodeChar]
  exact c.utf8Size_pos

/-- A text has at least as many octets as characters. -/
lemma length_le_length_encodeUtf8 (text : List Char) :
    text.length ≤ (encodeUtf8 text).length := by
  induction text with
  | nil => simp
  | cons c rest ih =>
      have hwidth := length_utf8EncodeChar_pos c
      rw [encodeUtf8_cons, List.length_append, List.length_cons]
      omega

@[simp] lemma octetOffsetOf_length (text : List Char) :
    octetOffsetOf text text.length = (encodeUtf8 text).length := by
  rw [octetOffsetOf, List.take_length]

/-- The octets of a beginning of a text are those of a shorter one and of what is between. -/
lemma encodeUtf8_take_eq (text : List Char) {i j : Nat} (hij : i ≤ j) :
    encodeUtf8 (text.take j) = encodeUtf8 (text.take i) ++ encodeUtf8 (cut text i j) := by
  rw [← encodeUtf8_append, cut, ← List.take_add, Nat.add_sub_cancel' hij]

/-- From one character to a later one there is at least one octet for each. -/
lemma octetOffsetOf_add_le {text : List Char} {i j : Nat} (hij : i ≤ j) (hj : j ≤ text.length) :
    octetOffsetOf text i + (j - i) ≤ octetOffsetOf text j := by
  have hbetween := length_le_length_encodeUtf8 (cut text i j)
  have hlength : (cut text i j).length = j - i := by
    rw [cut, List.length_take, List.length_drop]
    omega
  rw [octetOffsetOf, octetOffsetOf, encodeUtf8_take_eq text hij, List.length_append]
  omega

lemma octetOffsetOf_mono (text : List Char) : Monotone (octetOffsetOf text) := by
  intro i j hij
  rw [octetOffsetOf, octetOffsetOf, encodeUtf8_take_eq text hij, List.length_append]
  exact Nat.le_add_right _ _

/-- Where a text has no more octets than characters, neither has any beginning of it: what comes
after that has at least as many octets as characters too. -/
lemma octetOffsetOf_eq_of_length_eq {text : List Char} {i : Nat} (hi : i ≤ text.length)
    (h : (encodeUtf8 text).length = text.length) : octetOffsetOf text i = i := by
  have hbefore := octetOffsetOf_add_le (Nat.zero_le i) hi
  have hafter := octetOffsetOf_add_le hi le_rfl
  rw [octetOffsetOf_length, h] at hafter
  rw [octetOffsetOf_zero] at hbefore
  omega

/-! ### The map from octets to characters -/

/-- The table from octets to characters of a text, if it has one. -/
lemma octetToChar_ofText (text : List Char) :
    (SourceText.ofText text).octetToChar =
      if (encodeUtf8 text).length = text.length then none
      else some (octetTable 0 text).toArray := by
  unfold SourceText.ofText
  simp only
  split <;> rfl

/-- The table from octets to characters, at any octet or the end: the character is the last one that
does not begin after the octet. -/
lemma exists_getElem?_octetTable (first : Nat) (text : List Char) {b : Nat}
    (hb : b ≤ (encodeUtf8 text).length) :
    ∃ i ≤ text.length, (octetTable first text)[b]? = some ((first + i : Nat) : Int) ∧
      octetOffsetOf text i ≤ b ∧ ∀ j ≤ text.length, octetOffsetOf text j ≤ b → j ≤ i := by
  induction text generalizing first b with
  | nil =>
      obtain rfl : b = 0 := by simpa [encodeUtf8] using hb
      exact ⟨0, le_rfl, rfl, le_rfl, fun j hj _ => hj⟩
  | cons c rest ih =>
      by_cases hfirst : b < (String.utf8EncodeChar c).length
      · -- the octet is one of the first character, and the next one begins after it
        refine ⟨0, Nat.zero_le _, ?_, Nat.zero_le _, fun j hj hjb => ?_⟩
        · rw [octetTable, List.getElem?_append_left (by simpa using hfirst),
            List.getElem?_replicate, if_pos hfirst]
          rfl
        · cases j with
          | zero => exact le_rfl
          | succ j =>
              rw [octetOffsetOf_cons_succ] at hjb
              omega
      · rw [encodeUtf8_cons, List.length_append] at hb
        obtain ⟨i, hi, hentry, hbegin, hlast⟩ :=
          ih (first + 1) (b := b - (String.utf8EncodeChar c).length) (by omega)
        refine ⟨i + 1, by simpa using hi, ?_, ?_, fun j hj hjb => ?_⟩
        · rw [octetTable, List.getElem?_append_right (by rw [List.length_replicate]; omega),
            List.length_replicate, hentry]
          congr 2
          omega
        · rw [octetOffsetOf_cons_succ]
          omega
        · cases j with
          | zero => exact Nat.zero_le _
          | succ j =>
              rw [octetOffsetOf_cons_succ] at hjb
              have := hlast j (by simpa using hj) (by omega)
              omega

/-- An entry at an index that is not below zero. -/
lemma entryAt?_natCast {α : Type} (entries : Array α) (n : Nat) :
    entryAt? entries (n : Int) = entries[n]? := by
  unfold entryAt? resolveIndex
  have hsign : ¬ ((n : Int) < 0) := by omega
  simp only [hsign, if_false]
  by_cases hn : n < entries.size
  · rw [if_pos (by omega), Option.bind_some, Int.toNat_natCast]
  · rw [if_neg (by omega), Option.bind_none, Array.getElem?_eq_none (by omega)]

/-- The character offset of an octet or of the end, with or without tables: that of the last
character that does not begin after the octet. -/
lemma exists_charOffset_natCast {text : List Char} {b : Nat}
    (hb : b ≤ (encodeUtf8 text).length) :
    ∃ i ≤ text.length, (SourceText.ofText text).charOffset b = .ok (i : Int) ∧
      octetOffsetOf text i ≤ b ∧ ∀ j ≤ text.length, octetOffsetOf text j ≤ b → j ≤ i := by
  rw [SourceText.charOffset, octetToChar_ofText]
  split_ifs with hplain
  · rw [hplain] at hb
    refine ⟨b, hb, rfl, (octetOffsetOf_eq_of_length_eq hb hplain).le, fun j hj hjb => ?_⟩
    rwa [octetOffsetOf_eq_of_length_eq hj hplain] at hjb
  · obtain ⟨i, hi, hentry, hbegin, hlast⟩ := exists_getElem?_octetTable 0 text hb
    have hentry' : entryAt? (octetTable 0 text).toArray b = some (i : Int) := by
      rw [entryAt?_natCast, List.getElem?_toArray, hentry, Nat.zero_add]
    exact ⟨i, hi, by simp only [SourceText.through, hentry'], hbegin, hlast⟩

/-- The map from octets to characters leads back from the first octet of a character. -/
lemma charOffset_octetOffsetOf {text : List Char} {i : Nat} (hi : i ≤ text.length) :
    (SourceText.ofText text).charOffset (octetOffsetOf text i) = .ok (i : Int) := by
  have hbound : octetOffsetOf text i ≤ (encodeUtf8 text).length :=
    octetOffsetOf_length text ▸ octetOffsetOf_mono text hi
  obtain ⟨j, hj, hchar, hbegin, hlast⟩ := exists_charOffset_natCast hbound
  have hij : i ≤ j := hlast i hi le_rfl
  have hbetween := octetOffsetOf_add_le hij hj
  obtain rfl : i = j := by omega
  exact hchar

/-! ### Trees on the boundaries of a text -/

/-- Whether an octet offset is that of a character of the text, or of its end. -/
def IsBoundary (text : List Char) (offset : Nat) : Prop :=
  ∃ i ≤ text.length, octetOffsetOf text i = offset

/-- Every offset of a tree is a boundary of the text. Nothing else is asked of the tree. -/
def OnBoundaries (text : List Char) (tree : Node) : Prop :=
  tree.Everywhere fun node => IsBoundary text node.start ∧ IsBoundary text node.stop

/-- Every offset of a tree, counted in characters, is that of a character of the text or of its
end. -/
def LiesWithin (text : List Char) (root : Node) : Prop :=
  root.Everywhere fun node => node.start ≤ text.length ∧ node.stop ≤ text.length

instance (text : List Char) (offset : Nat) : Decidable (IsBoundary text offset) :=
  inferInstanceAs (Decidable (∃ i ≤ text.length, octetOffsetOf text i = offset))

instance (text : List Char) (tree : Node) : Decidable (OnBoundaries text tree) :=
  inferInstanceAs (Decidable (tree.Everywhere _))

instance (text : List Char) (root : Node) : Decidable (LiesWithin text root) :=
  inferInstanceAs (Decidable (root.Everywhere _))

lemma mapOffsets_eq {ε : Type} (f : Nat → Except ε Nat) (node : Node) :
    node.mapOffsets f = (f node.start).bind fun start => (f node.stop).bind fun stop =>
      (Node.mapOffsetsAll f node.children).bind fun children =>
        .ok { node with start, stop, children } := by
  cases node
  rfl

lemma mapOffsetsAll_eq_mapM {ε : Type} (f : Nat → Except ε Nat) (nodes : List Node) :
    Node.mapOffsetsAll f nodes = nodes.mapM (Node.mapOffsets f) := by
  induction nodes with
  | nil => rfl
  | cons first rest ih =>
      rw [List.mapM_cons, ← ih]
      rfl

/-- A moved tree has its own offsets moved, and its children one by one. -/
lemma mapOffsets_eq_ok_iff {ε : Type} {f : Nat → Except ε Nat} {node other : Node} :
    node.mapOffsets f = .ok other ↔ ∃ start stop children, f node.start = .ok start ∧
      f node.stop = .ok stop ∧
      List.Forall₂ (fun child moved => child ∈ node.children ∧ child.mapOffsets f = .ok moved)
        node.children children ∧
      other = { node with start, stop, children } := by
  rw [mapOffsets_eq]
  simp only [except_bind_eq_ok, Except.ok.injEq, List.forall₂_and_left,
    mapOffsetsAll_eq_mapM, mapM_eq_ok_iff]
  constructor
  · rintro ⟨start, hstart, stop, hstop, children, hall, rfl⟩
    exact ⟨start, stop, children, hstart, hstop, ⟨fun _ hmem => hmem, hall⟩, rfl⟩
  · rintro ⟨start, stop, children, hstart, hstop, ⟨-, hall⟩, rfl⟩
    exact ⟨start, hstart, stop, hstop, children, hall, rfl⟩

/-- What holds all over a tree holds in its form for moved trees all over the moved tree. -/
lemma everywhere_of_mapOffsets {ε : Type} {f : Nat → Except ε Nat} {P Q : Node → Prop}
    {tree root : Node} (h : tree.mapOffsets f = .ok root) (htree : tree.Everywhere P)
    (hmoved : ∀ node other : Node, P node → node.mapOffsets f = .ok other → Q other) :
    root.Everywhere Q := by
  induction tree using Node.ind generalizing root with
  | _ node ih =>
      obtain ⟨hself, hchildren⟩ := Node.everywhere_iff.mp htree
      refine Node.everywhere_iff.mpr ⟨hmoved node root hself h, ?_⟩
      obtain ⟨start, stop, children, -, -, hall, rfl⟩ := mapOffsets_eq_ok_iff.mp h
      -- each child of the moved tree is a child that was moved
      have hflip : List.Forall₂ (fun other _ => other.Everywhere Q ∧ True) children
          node.children := by
        refine List.Forall₂.flip (hall.imp ?_)
        rintro child other ⟨hchild, hother⟩
        exact ⟨ih child hchild hother (hchildren child hchild), trivial⟩
      exact ((List.forall₂_and_left _ _).mp hflip).1

/-- A tree can be moved where each of its offsets can be, and what holds of the moved offsets holds
all over the moved tree. -/
lemma exists_mapOffsets {ε : Type} {f : Nat → Except ε Nat} {Q : Nat → Prop} {tree : Node}
    (h : tree.Everywhere fun node =>
      (∃ i, f node.start = .ok i ∧ Q i) ∧ ∃ i, f node.stop = .ok i ∧ Q i) :
    ∃ root, tree.mapOffsets f = .ok root ∧
      root.Everywhere fun node => Q node.start ∧ Q node.stop := by
  have hmoves : ∃ root, tree.mapOffsets f = .ok root := by
    induction tree using Node.ind with
    | _ node ih =>
        obtain ⟨⟨⟨start, hstart, -⟩, stop, hstop, -⟩, hchildren⟩ := Node.everywhere_iff.mp h
        obtain ⟨children, hall⟩ :=
          exists_mapM fun child hchild => ih child hchild (hchildren child hchild)
        refine ⟨{ node with start, stop, children }, ?_⟩
        rw [mapOffsets_eq, hstart, hstop, mapOffsetsAll_eq_mapM, hall]
        rfl
  obtain ⟨root, hroot⟩ := hmoves
  refine ⟨root, hroot, everywhere_of_mapOffsets hroot h fun node other hnode hother => ?_⟩
  obtain ⟨⟨i, hi, hQi⟩, j, hj, hQj⟩ := hnode
  obtain ⟨start, stop, children, hstart, hstop, -, rfl⟩ := mapOffsets_eq_ok_iff.mp hother
  obtain rfl := Except.ok.inj (hi.symm.trans hstart)
  obtain rfl := Except.ok.inj (hj.symm.trans hstop)
  exact ⟨hQi, hQj⟩

/-- A boundary of the text is moved to the offset of its character. -/
lemma exists_charOffset {text : List Char} {offset : Nat} (h : IsBoundary text offset) :
    ∃ i, Int.toNat <$> (SourceText.ofText text).charOffset offset = .ok i ∧ i ≤ text.length := by
  obtain ⟨i, hi, rfl⟩ := h
  refine ⟨i, ?_, hi⟩
  rw [charOffset_octetOffsetOf hi]
  rfl

/-- **Placing a tree**: a tree on the boundaries of a text can be placed on the text, and then lies
within it. -/
theorem exists_place {text : List Char} {tree : Node} (h : OnBoundaries text tree) :
    ∃ root, Document.place (SourceText.ofText text) tree = .ok root ∧ LiesWithin text root := by
  refine exists_mapOffsets (Q := fun i => i ≤ text.length) ?_
  intro site hsite
  obtain ⟨hstart, hstop⟩ := h site hsite
  exact ⟨exists_charOffset hstart, exists_charOffset hstop⟩

end SourceLayers
