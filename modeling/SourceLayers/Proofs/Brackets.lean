/-
Angle brackets and their balance:

* `depthAfter`: the number of brackets open after some characters of a text;
* `depthAfter_of_balanceIndex?`, `depthAfter_pos_of_balanceIndex?`: the search for the end of a list
  stops where the depth is zero for the first time, and finds nothing where it never is;
* `IsOpening`, `openingBracket?_eq_some_iff`: the last `<` before an entry;
* `Balances`, `isLeast_of_balanceIndex?`: a stretch of text with as many `<` as `>`, and the least
  one from a bracket on;
* `searchRange`: the two searches one after the other, the second of which may fault.

Main statement: `bracketRange_exact`, when there is a list around an entry, where it begins and
ends, and that the searches never fault.
-/
import Mathlib.Tactic
import SourceLayers.Bracket

namespace SourceLayers

/-! ### Depth -/

/-- What a character adds to the number of open brackets. -/
def bracketStep (c : Char) : Int :=
  if c = '<' then 1 else if c = '>' then -1 else 0

/-- The number of brackets open after `j` characters of a text before which `depth` are open. -/
def depthAfter (depth : Int) (text : List Char) (j : Nat) : Int :=
  depth + (text.take j).count '<' - (text.take j).count '>'

variable {text : List Char} {entry : Int} {depth i j a b : Nat}

@[simp] lemma depthAfter_zero (depth : Int) (text : List Char) :
    depthAfter depth text 0 = depth := by
  simp [depthAfter]

@[simp] lemma depthAfter_nil (depth : Int) (j : Nat) : depthAfter depth [] j = depth := by
  simp [depthAfter]

lemma depthAfter_cons_succ (depth : Int) (c : Char) (rest : List Char) (j : Nat) :
    depthAfter depth (c :: rest) (j + 1) = depthAfter (depth + bracketStep c) rest j := by
  by_cases hopen : c = '<'
  · have hother : c ≠ '>' := by simp [hopen]
    simp only [depthAfter, bracketStep, hopen, if_true, List.take_succ_cons, List.count_cons_self,
      List.count_cons_of_ne (hopen ▸ hother)]
    omega
  · by_cases hclose : c = '>'
    · simp only [depthAfter, bracketStep, hclose, if_true, List.take_succ_cons,
        List.count_cons_self, List.count_cons_of_ne (hclose ▸ hopen), if_neg (hclose ▸ hopen)]
      omega
    · simp only [depthAfter, bracketStep, if_neg hopen, if_neg hclose, List.take_succ_cons,
        List.count_cons_of_ne hopen, List.count_cons_of_ne hclose, add_zero]

lemma neg_one_le_bracketStep (c : Char) : -1 ≤ bracketStep c := by
  unfold bracketStep
  split_ifs <;> decide

lemma eq_close_of_bracketStep {c : Char} (h : bracketStep c = -1) : c = '>' := by
  unfold bracketStep at h
  split_ifs at h with hopen hclose
  exact hclose

/-- The search goes on with the depth after a character, unless that closes the last bracket. -/
lemma balanceIndex?_cons (hdepth : 0 < depth) (c : Char) (rest : List Char) :
    balanceIndex? depth (c :: rest) =
      if (depth : Int) + bracketStep c = 0 then some 0
      else (balanceIndex? (depth + bracketStep c).toNat rest).map (· + 1) := by
  have hne : depth ≠ 0 := hdepth.ne'
  rw [balanceIndex?]
  by_cases hopen : c = '<'
  · have hmore : (depth : Int) + 1 ≠ 0 := by omega
    simp [bracketStep, hopen, hmore]
  · by_cases hclose : c = '>'
    · by_cases hlast : depth ≤ 1
      · obtain rfl : depth = 1 := by omega
        simp [bracketStep, hclose]
      · have hless : (depth : Int) + -1 ≠ 0 := by omega
        have hpred : ((depth : Int) + -1).toNat = depth - 1 := by omega
        simp [bracketStep, hclose, hlast, hless, hpred]
    · simp [bracketStep, hopen, hclose, hne]

/-- Where the search finds something, a `>` closes the last open bracket, and before that some
bracket was open all the time. -/
lemma depthAfter_of_balanceIndex? (hdepth : 0 < depth) (h : balanceIndex? depth text = some i) :
    text[i]? = some '>' ∧ depthAfter depth text (i + 1) = 0 ∧
      ∀ j ≤ i, 0 < depthAfter depth text j := by
  induction text generalizing depth i with
  | nil => cases h
  | cons c rest ih =>
      have hbound := neg_one_le_bracketStep c
      rw [balanceIndex?_cons hdepth] at h
      split_ifs at h with hzero
      · cases h
        refine ⟨?_, by rw [depthAfter_cons_succ, depthAfter_zero, hzero], fun j hj => ?_⟩
        · rw [eq_close_of_bracketStep (c := c) (by omega)]
          rfl
        · obtain rfl : j = 0 := by omega
          simpa using hdepth
      · obtain ⟨i, hi, rfl⟩ := Option.map_eq_some_iff.mp h
        have hnext : (((depth : Int) + bracketStep c).toNat : Int) = depth + bracketStep c := by
          omega
        obtain ⟨hclose, hend, hopen⟩ := ih (by omega) hi
        rw [hnext] at hend hopen
        refine ⟨hclose, by rw [depthAfter_cons_succ, hend], fun j hj => ?_⟩
        cases j with
        | zero => simpa using hdepth
        | succ j =>
            rw [depthAfter_cons_succ]
            exact hopen j (by omega)

/-- Where the search finds nothing, some bracket is open to the end. -/
lemma depthAfter_pos_of_balanceIndex? (hdepth : 0 < depth) (h : balanceIndex? depth text = none)
    (j : Nat) : 0 < depthAfter depth text j := by
  induction text generalizing depth j with
  | nil => simpa using hdepth
  | cons c rest ih =>
      have hbound := neg_one_le_bracketStep c
      rw [balanceIndex?_cons hdepth] at h
      split_ifs at h with hzero
      have hnext : (((depth : Int) + bracketStep c).toNat : Int) = depth + bracketStep c := by
        omega
      cases j with
      | zero => simpa using hdepth
      | succ j =>
          rw [depthAfter_cons_succ, ← hnext]
          exact ih (by omega) (Option.map_eq_none_iff.mp h) j

/-! ### The last bracket before an entry -/

/-- The last `<` before an entry stands at `a`. -/
def IsOpening (text : List Char) (entry : Int) (a : Nat) : Prop :=
  (a : Int) < entry ∧ text[a]? = some '<' ∧ '<' ∉ cut text (a + 1) entry.toNat

instance (text : List Char) (entry : Int) (a : Nat) : Decidable (IsOpening text entry a) :=
  inferInstanceAs (Decidable (_ ∧ _))

/-- Searching back from the end of a text begins at its last character. -/
lemma findIdx?_reverse_concat (text : List Char) (c : Char) :
    ((text ++ [c]).reverse.findIdx? (· == '<')).map
        (fun back => (text ++ [c]).length - 1 - back) =
      if c = '<' then some text.length
      else (text.reverse.findIdx? (· == '<')).map fun back => text.length - 1 - back := by
  simp only [List.reverse_append, List.reverse_singleton, List.singleton_append,
    List.findIdx?_cons, beq_iff_eq, List.length_append, List.length_singleton]
  split_ifs with hc
  · simp
  · rw [Option.map_map]
    congr 1
    funext back
    simp only [Function.comp_apply]
    omega

/-- Searching back from the end of a text finds the `<` with no other one after it. -/
lemma findIdx?_reverse_eq_some_iff :
    ((text.reverse.findIdx? (· == '<')).map fun back => text.length - 1 - back) = some a ↔
      text[a]? = some '<' ∧ '<' ∉ text.drop (a + 1) := by
  induction text using List.reverseRecOn with
  | nil => simp
  | append_singleton text c ih =>
      rw [findIdx?_reverse_concat]
      rcases lt_trichotomy a text.length with hlt | rfl | hgt
      · rw [List.getElem?_append_left hlt, List.drop_append_of_le_length hlt, List.mem_append,
          List.mem_singleton]
        split_ifs with hc
        · simp [hc, hlt.ne']
        · simp [ih, Ne.symm hc]
      · split_ifs with hc
        · simp [hc]
        · simp [ih, hc]
      · have hnone : text[a]? = none := List.getElem?_eq_none hgt.le
        have hnone' : (text ++ [c])[a]? = none := List.getElem?_eq_none (by simpa using hgt)
        split_ifs with hc
        · simp [hnone', hgt.ne]
        · simp [ih, hnone, hnone']

/-- The search for the bracket before an entry goes back through what comes before it, which may be
nothing. -/
lemma openingBracket?_natCast (text : List Char) (entry : Nat) :
    openingBracket? text (entry - 1 : Int) =
      ((text.take entry).reverse.findIdx? (· == '<')).map
        fun back => (text.take entry).length - 1 - back := by
  rw [openingBracket?]
  cases entry with
  | zero => rfl
  | succ entry =>
      rw [if_neg (by omega)]
      have hlast : ((entry + 1 : Nat) - 1 : Int).toNat + 1 = entry + 1 := by omega
      simp only [hlast]

/-- Before an entry at zero or below there is nothing. -/
lemma openingBracket?_toNat (text : List Char) (entry : Int) :
    openingBracket? text (entry - 1) = openingBracket? text ((entry.toNat : Int) - 1) := by
  by_cases hentry : 0 ≤ entry
  · rw [Int.toNat_of_nonneg hentry]
  · rw [Int.toNat_of_nonpos (by omega), openingBracket?, openingBracket?, if_pos (by omega),
      if_pos (by decide)]

lemma openingBracket?_eq_some_iff :
    openingBracket? text (entry - 1) = some a ↔ IsOpening text entry a := by
  rw [openingBracket?_toNat, openingBracket?_natCast, findIdx?_reverse_eq_some_iff,
    List.getElem?_take, List.drop_take, IsOpening, cut, ← and_assoc]
  refine and_congr_left fun _ => ?_
  by_cases ha : a < entry.toNat
  · have ha' : (a : Int) < entry := by omega
    simp [ha, ha']
  · have ha' : ¬ (a : Int) < entry := by omega
    simp [ha, ha']

lemma openingBracket?_eq_none_iff :
    openingBracket? text (entry - 1) = none ↔ '<' ∉ text.take entry.toNat := by
  rw [openingBracket?_toNat, openingBracket?_natCast, Option.map_eq_none_iff,
    List.findIdx?_eq_none_iff]
  simp only [List.mem_reverse, beq_eq_false_iff_ne]
  exact ⟨fun h hmem => h _ hmem rfl, fun h c hc heq => h (heq ▸ hc)⟩

lemma IsOpening.unique {a' : Nat} (h : IsOpening text entry a) (h' : IsOpening text entry a') :
    a = a' :=
  Option.some.inj ((openingBracket?_eq_some_iff.mpr h).symm.trans
    (openingBracket?_eq_some_iff.mpr h'))

/-! ### The end of the list -/

/-- The text between two offsets is not empty and holds as many `<` as `>`. -/
def Balances (text : List Char) (start stop : Nat) : Prop :=
  start < stop ∧ stop ≤ text.length ∧
    (cut text start stop).count '<' = (cut text start stop).count '>'

instance (text : List Char) (start stop : Nat) : Decidable (Balances text start stop) :=
  inferInstanceAs (Decidable (_ ∧ _))

/-- From a bracket on, the depth is what the brackets leave open. -/
lemma depthAfter_of_opening (ha : text[a]? = some '<') (j : Nat) :
    depthAfter 1 (text.drop (a + 1)) j =
      (cut text a (a + 1 + j)).count '<' - (cut text a (a + 1 + j)).count '>' := by
  obtain ⟨hlt, hopen⟩ := List.getElem?_eq_some_iff.mp ha
  have hcut : cut text a (a + 1 + j) = '<' :: (text.drop (a + 1)).take j := by
    have hlength : a + 1 + j - a = j + 1 := by omega
    rw [cut, hlength, List.drop_eq_getElem_cons hlt, hopen, List.take_succ_cons]
  have hother : '<' ≠ '>' := by decide
  rw [hcut, depthAfter, List.count_cons_self, List.count_cons_of_ne hother]
  omega

/-- Where the search finds the end of the list that begins with a bracket, that is the first offset
at which the brackets balance: it comes right after a `>`, and before it more are open. -/
lemma isLeast_of_balanceIndex? (ha : text[a]? = some '<')
    (h : balanceIndex? 1 (text.drop (a + 1)) = some i) :
    IsLeast {stop | Balances text a stop} (a + i + 2) ∧ text[a + i + 1]? = some '>' ∧
      ∀ stop, a < stop → stop < a + i + 2 →
        (cut text a stop).count '>' < (cut text a stop).count '<' := by
  obtain ⟨hclose, hzero, hpos⟩ := depthAfter_of_balanceIndex? Nat.one_pos h
  have hmore : ∀ stop, a < stop → stop < a + i + 2 →
      (cut text a stop).count '>' < (cut text a stop).count '<' := by
    intro stop hstart hstop
    have hdepth := hpos (stop - (a + 1)) (by omega)
    rw [Nat.cast_one, depthAfter_of_opening ha] at hdepth
    have hsame : a + 1 + (stop - (a + 1)) = stop := by omega
    rw [hsame] at hdepth
    omega
  rw [List.getElem?_drop] at hclose
  have hplace : a + 1 + i = a + i + 1 := by omega
  rw [hplace] at hclose
  have hlength := (List.getElem?_eq_some_iff.mp hclose).1
  rw [Nat.cast_one, depthAfter_of_opening ha] at hzero
  have hstop : a + 1 + (i + 1) = a + i + 2 := by omega
  rw [hstop] at hzero
  refine ⟨⟨⟨by omega, by omega, by omega⟩, ?_⟩, hclose, hmore⟩
  rintro stop ⟨hstart, -, hbalance⟩
  by_contra hlt
  have := hmore stop hstart (by omega)
  omega

/-- Where the search finds no end, the brackets never balance. -/
lemma not_balances_of_balanceIndex? (ha : text[a]? = some '<')
    (h : balanceIndex? 1 (text.drop (a + 1)) = none) (stop : Nat) : ¬ Balances text a stop := by
  rintro ⟨hstart, -, hbalance⟩
  have hdepth := depthAfter_pos_of_balanceIndex? Nat.one_pos h (stop - (a + 1))
  rw [Nat.cast_one, depthAfter_of_opening ha] at hdepth
  have hsame : a + 1 + (stop - (a + 1)) = stop := by omega
  rw [hsame] at hdepth
  omega

/-! ### The list around an entry -/

/-- The bounds of the list around an entry by the two searches, one after the other. The second one
may fault. -/
def searchRange (text : List Char) (entry : Int) : Except OffsetFault (Option (Int × Int)) :=
  match openingBracket? text (entry - 1) with
  | none => .ok none
  | some opening => do
    let close? ← closingBracket text opening
    return close?.map fun close => ((opening : Int), close + 1)

/-- After a bracket of the text the search for its end does not fault. -/
lemma closingBracket_natCast (text : List Char) (opening : Nat) :
    closingBracket text opening =
      .ok ((balanceIndex? 1 (text.drop (opening + 1))).map
        fun i : Nat => (opening : Int) + 1 + i) := by
  rw [closingBracket, if_pos (by omega)]
  have hfirst : ((opening : Int) + 1).toNat = opening + 1 := by omega
  rw [hfirst]
  cases balanceIndex? 1 (text.drop (opening + 1)) <;> rfl

/-- The bounds of a list are those of the two searches. -/
lemma bracketRange?_eq (text : List Char) (entry : Int) :
    bracketRange? text entry = (openingBracket? text (entry - 1)).bind fun opening =>
      (balanceIndex? 1 (text.drop (opening + 1))).map fun i => (opening, opening + i + 2) := by
  rw [bracketRange?]
  cases openingBracket? text (entry - 1) with
  | none => rfl
  | some opening =>
      simp only [bind, Option.bind_some]
      cases balanceIndex? 1 (text.drop (opening + 1)) <;> rfl

lemma searchRange_eq (text : List Char) (entry : Int) :
    searchRange text entry =
      .ok ((bracketRange? text entry).map fun range => ((range.1 : Int), (range.2 : Int))) := by
  rw [searchRange, bracketRange?_eq]
  cases openingBracket? text (entry - 1) with
  | none => rfl
  | some opening =>
      simp only [closingBracket_natCast, Option.bind_some, Option.map_map]
      change Except.ok _ = Except.ok _
      rw [Option.map_map]
      refine congrArg Except.ok (Option.map_congr fun i _ => ?_)
      simp only [Function.comp_apply, Prod.mk.injEq, true_and]
      omega

/-- There is a list around an entry where both searches find something. -/
lemma bracketRange?_eq_some_iff :
    bracketRange? text entry = some (a, b) ↔
      IsOpening text entry a ∧
        ∃ i, balanceIndex? 1 (text.drop (a + 1)) = some i ∧ a + i + 2 = b := by
  rw [bracketRange?_eq, Option.bind_eq_some_iff]
  constructor
  · rintro ⟨opening, hopening, hrange⟩
    obtain ⟨i, hi, hbounds⟩ := Option.map_eq_some_iff.mp hrange
    cases hbounds
    exact ⟨openingBracket?_eq_some_iff.mp hopening, i, hi, rfl⟩
  · rintro ⟨hopening, i, hi, rfl⟩
    exact ⟨a, openingBracket?_eq_some_iff.mpr hopening, by rw [hi, Option.map_some]⟩

/-- The list begins with the last bracket before the entry and ends where the brackets first
balance. -/
lemma bracketRange?_eq_some_iff_isLeast :
    bracketRange? text entry = some (a, b) ↔
      IsOpening text entry a ∧ IsLeast {stop | Balances text a stop} b := by
  rw [bracketRange?_eq_some_iff]
  refine and_congr_right fun hopening => ⟨?_, fun hleast => ?_⟩
  · rintro ⟨i, hi, rfl⟩
    exact (isLeast_of_balanceIndex? hopening.2.1 hi).1
  · cases hi : balanceIndex? 1 (text.drop (a + 1)) with
    | none => exact absurd hleast.1 (not_balances_of_balanceIndex? hopening.2.1 hi b)
    | some i => exact ⟨i, rfl, (isLeast_of_balanceIndex? hopening.2.1 hi).1.unique hleast⟩

/-- **The list around an entry**: it begins with the last `<` before the entry and ends at the first
offset from there on at which the brackets balance, right after a `>`, with some of them open all
the way. There is none exactly if no `<` comes before the entry or the brackets never balance. The
two searches find it without a fault, wherever the entry is. -/
theorem bracketRange_exact (text : List Char) (entry : Int) :
    (∀ a b, bracketRange? text entry = some (a, b) ↔
      IsOpening text entry a ∧ IsLeast {stop | Balances text a stop} b) ∧
    (∀ a b, bracketRange? text entry = some (a, b) → text[b - 1]? = some '>' ∧
      ∀ stop, a < stop → stop < b →
        (cut text a stop).count '>' < (cut text a stop).count '<') ∧
    (bracketRange? text entry = none ↔
      '<' ∉ text.take entry.toNat ∨
        ∃ a, IsOpening text entry a ∧ ∀ stop, ¬ Balances text a stop) ∧
    searchRange text entry =
      .ok ((bracketRange? text entry).map fun range => ((range.1 : Int), (range.2 : Int))) := by
  refine ⟨fun a b => ⟨fun hrange => ?_, ?_⟩, fun a b hrange => ?_, ⟨fun hnone => ?_, ?_⟩,
    searchRange_eq text entry⟩
  · obtain ⟨hopening, i, hi, rfl⟩ := bracketRange?_eq_some_iff.mp hrange
    exact ⟨hopening, (isLeast_of_balanceIndex? hopening.2.1 hi).1⟩
  · rintro ⟨hopening, hleast⟩
    refine bracketRange?_eq_some_iff.mpr ⟨hopening, ?_⟩
    cases hi : balanceIndex? 1 (text.drop (a + 1)) with
    | none => exact absurd hleast.1 (not_balances_of_balanceIndex? hopening.2.1 hi b)
    | some i =>
        exact ⟨i, rfl, (isLeast_of_balanceIndex? hopening.2.1 hi).1.unique hleast⟩
  · obtain ⟨hopening, i, hi, rfl⟩ := bracketRange?_eq_some_iff.mp hrange
    exact (isLeast_of_balanceIndex? hopening.2.1 hi).2
  · by_cases hbefore : '<' ∈ text.take entry.toNat
    · obtain ⟨a, ha⟩ := Option.ne_none_iff_exists'.mp
        fun h => openingBracket?_eq_none_iff.mp h hbefore
      have hopening := openingBracket?_eq_some_iff.mp ha
      refine Or.inr ⟨a, hopening, not_balances_of_balanceIndex? hopening.2.1 ?_⟩
      rw [Option.eq_none_iff_forall_ne_some]
      intro i hi
      rw [bracketRange?_eq_some_iff.mpr ⟨hopening, i, hi, rfl⟩] at hnone
      cases hnone
    · exact Or.inl hbefore
  · rw [Option.eq_none_iff_forall_ne_some]
    rintro hnone ⟨a, b⟩ hrange
    obtain ⟨hopening, i, hi, -⟩ := bracketRange?_eq_some_iff.mp hrange
    rcases hnone with hbefore | ⟨a', hopening', hnever⟩
    · have hfound := openingBracket?_eq_some_iff.mpr hopening
      rw [openingBracket?_eq_none_iff.mpr hbefore] at hfound
      cases hfound
    · obtain rfl := hopening.unique hopening'
      exact hnever _ (isLeast_of_balanceIndex? hopening.2.1 hi).1.1

/-- A list with another one in it, between a `>` that closes nothing and a `<` that nothing
closes. -/
def nestedText : List Char :=
  "g>f<a<b>>(x<y".toList

/-- The outer list is found by its first entry. The last bracket begins no list, and nothing comes
before the first character. -/
theorem bracketRange_exact_nested :
    bracketRange? nestedText 4 = some (3, 9) ∧ IsOpening nestedText 4 3 ∧
      IsLeast {stop | Balances nestedText 3 stop} 9 ∧ nestedText[8]? = some '>' ∧
      bracketRange? nestedText 12 = none ∧ (∀ stop, ¬ Balances nestedText 11 stop) ∧
      searchRange nestedText (-1) = .ok none := by
  have houter : bracketRange? nestedText 4 = some (3, 9) := by decide +kernel
  have hlast : bracketRange? nestedText 12 = none := by decide +kernel
  have hbefore : bracketRange? nestedText (-1) = none := by decide +kernel
  obtain ⟨hopening, hleast⟩ := ((bracketRange_exact nestedText 4).1 3 9).mp houter
  refine ⟨houter, hopening, hleast, ((bracketRange_exact nestedText 4).2.1 3 9 houter).1, hlast,
    fun stop => ?_, ?_⟩
  · rcases (bracketRange_exact nestedText 12).2.2.1.mp hlast with hnone | ⟨a, ha, hnever⟩
    · exact absurd hnone (by decide +kernel)
    · have hopen : IsOpening nestedText 12 11 := by decide +kernel
      rw [hopen.unique ha]
      exact hnever stop
  · rw [(bracketRange_exact nestedText (-1)).2.2.2, hbefore]
    rfl

end SourceLayers
