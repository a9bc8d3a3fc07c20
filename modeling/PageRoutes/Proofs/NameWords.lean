import PageRoutes.Segment
import PageRoutes.Proofs.Lists
import Mathlib.Data.List.SplitBy

/-!
# Words and the names they come from

The words of a name make up the name without its separators, in whatever way letters are told to be
upper or lower case, and no upper case letter in a word stands behind a lower case one.  Writing a
word in lower case moves letters to letters, so a sign of the lower ASCII range stands in the
element name of a component exactly if it stands in the name of a segment.
-/

namespace PageRoutes.Text

variable {isUpper isLower : Char → Bool} {group word : List Char}

/-! ## Words -/

/-- Whether an upper case letter behind a character begins a new word. -/
def isSmall (isLower : Char → Bool) (c : Char) : Bool :=
  isLower c || c.isDigit

/-- A text that makes one word: it is not empty, has no separators, and no upper case letter stands
behind a lower case letter or a digit. -/
structure IsWord (isUpper isLower : Char → Bool) (word : List Char) : Prop where
  ne_nil : word ≠ []
  isSeparator_eq : ∀ c ∈ word, isSeparator c = false
  isChain : word.IsChain fun a b => isSmall isLower a = true → isUpper b = false

theorem sameWord_iff {a b : Char} : sameWord isUpper isLower a b = true ↔
    isSeparator a = false ∧ isSeparator b = false ∧
      (isSmall isLower a = true → isUpper b = false) := by
  cases hb : isUpper b <;> simp [sameWord, isSmall, hb, and_assoc]

/-- Whatever comes out of the splitting is a word. -/
theorem isWord_of_mem_wordsBy {name : List Char} (h : word ∈ wordsBy isUpper isLower name) :
    IsWord isUpper isLower word := by
  rw [wordsBy, List.mem_filter, List.all_eq_true] at h
  obtain ⟨hgroup, hsep⟩ := h
  refine ⟨List.ne_nil_of_mem_splitBy hgroup, fun c hc => by simpa using hsep c hc, ?_⟩
  exact (List.isChain_of_mem_splitBy hgroup).imp fun a b hab => (sameWord_iff.1 hab).2.2

/-- Neighbours that belong to one word are no separators, so a separator stands alone. -/
theorem all_or_filter_eq_nil
    (h : group.IsChain fun a b => sameWord isUpper isLower a b = true) :
    group.all (!isSeparator ·) = true ∨ group.filter (!isSeparator ·) = [] := by
  induction group with
  | nil => exact Or.inr rfl
  | cons a rest ih =>
    cases rest with
    | nil =>
      cases hsep : isSeparator a <;> simp [hsep]
    | cons b rest =>
      obtain ⟨hpair, hrest⟩ := List.isChain_cons_cons.1 h
      obtain ⟨ha, hb, -⟩ := sameWord_iff.1 hpair
      rcases ih hrest with hall | hnil
      · rw [List.all_cons, ha, hall]
        exact Or.inl rfl
      · have hmem := List.filter_eq_nil_iff.1 hnil b List.mem_cons_self
        exact absurd hb (by simpa using hmem)

/-- The words of a name are the name without its separators. -/
theorem flatten_wordsBy (isUpper isLower : Char → Bool) (name : List Char) :
    (wordsBy isUpper isLower name).flatten = name.filter (!isSeparator ·) := by
  -- a group of characters is a word or leaves nothing
  have hgroups : ∀ groups : List (List Char),
      (∀ group ∈ groups, group.IsChain fun a b => sameWord isUpper isLower a b = true) →
        (groups.filter fun word => word.all (!isSeparator ·)).flatten =
          groups.flatten.filter (!isSeparator ·) := by
    intro groups hchains
    induction groups with
    | nil => rfl
    | cons group groups ih =>
      rw [List.forall_mem_cons] at hchains
      rw [List.flatten_cons, List.filter_append, ← ih hchains.2, List.filter_cons]
      split
      · rename_i hall
        rw [List.flatten_cons, List.filter_eq_self.2 (List.all_eq_true.1 hall)]
      · rename_i hall
        rw [(all_or_filter_eq_nil hchains.1).resolve_left hall, List.nil_append]
  rw [wordsBy, hgroups _ fun _ => List.isChain_of_mem_splitBy, List.flatten_splitBy]

theorem mem_flatten_words_iff {name : String} {c : Char} :
    c ∈ (words name).flatten ↔ c ∈ name.toList ∧ isSeparator c = false := by
  rw [words, flatten_wordsBy, List.mem_filter, Bool.not_eq_true']

/-! ## Lower case -/

theorem toNat_ofNat (n : Nat) : (Char.ofNat n).toNat = n ∨ (Char.ofNat n).toNat = 0 := by
  by_cases h : n.isValidChar
  · rw [Char.ofNat, dif_pos h]
    exact Or.inl rfl
  · rw [Char.ofNat, dif_neg h]
    exact Or.inr rfl

/-- No letter in lower case stands in front of the letter `a`. -/
theorem le_of_mem_lowerShifts : ∀ s ∈ lowerShifts, 0x61 ≤ s.first + s.distance := by
  decide +kernel

/-- Writing in lower case yields no sign in front of the letter `a` that was not there. -/
theorem lowerOf_eq_or_le {c d : Char} (hd : d ∈ lowerOf c) :
    d = c ∨ d.toNat = 0 ∨ 0x61 ≤ d.toNat := by
  unfold lowerOf at hd
  split at hd
  · -- the dotted capital becomes an `i` with a dot above
    rcases List.mem_cons.1 hd with rfl | hdot
    · exact Or.inr (Or.inr (by decide))
    · rw [List.mem_singleton.1 hdot]
      exact Or.inr (Or.inr (by decide))
  · rw [List.mem_singleton] at hd
    subst hd
    unfold shifted
    cases hfind : lowerShifts.find? (·.contains c.toNat) with
    | none => exact Or.inl rfl
    | some s =>
      have hmove := le_of_mem_lowerShifts s (List.mem_of_find?_eq_some hfind)
      have hcontains := List.find?_some hfind
      simp only [CodeRange.contains, Bool.and_eq_true, decide_eq_true_eq] at hcontains
      rcases toNat_ofNat (c.toNat + s.distance).toNat with heq | hzero
      · refine Or.inr (Or.inr ?_)
        show 0x61 ≤ (Char.ofNat (c.toNat + s.distance).toNat).toNat
        rw [heq]
        omega
      · exact Or.inr (Or.inl hzero)

/-- A sign that is in lower case already stands in a text in lower case if it stands in the text. -/
theorem mem_lowerFrom_iff {c : Char} (hself : lowerOf c = [c]) (hpos : 0 < c.toNat)
    (hlt : c.toNat < 0x61) {before cs : List Char} : c ∈ lowerFrom before cs ↔ c ∈ cs := by
  induction cs generalizing before with
  | nil => exact Iff.rfl
  | cons d rest ih =>
    rw [lowerFrom, List.mem_append, ih, List.mem_cons]
    refine or_congr_left ?_
    split
    · -- a capital sigma becomes one of the small ones
      rename_i hsigma
      subst hsigma
      rw [List.mem_singleton]
      constructor
      · intro hc
        rw [hc] at hlt
        split at hlt <;> exact absurd hlt (by decide)
      · rintro rfl
        exact absurd hlt (by decide)
    · constructor
      · intro hc
        rcases lowerOf_eq_or_le hc with heq | hzero | hle
        · exact heq
        · omega
        · omega
      · rintro rfl
        rw [hself]
        exact List.mem_singleton_self _

end PageRoutes.Text

namespace PageRoutes.Segment

theorem isWord_of_mem_words {d : List Segment} {word : List Char} (h : word ∈ words d) :
    Text.IsWord Text.isUppercase Text.isLowercase word := by
  obtain ⟨s, -, hs⟩ := List.mem_flatMap.1 h
  exact Text.isWord_of_mem_wordsBy hs

/-- A sign stands in the element name of a component exactly if some segment has it. -/
theorem mem_selector_iff {c : Char} (hself : Text.lowerOf c = [c]) (hpos : 0 < c.toNat)
    (hlt : c.toNat < 0x61) (hfront : c ∉ "app-".toList) (hback : c ∉ "-route-index".toList)
    (hsep : Text.isSeparator c = false) {segments : List Segment} :
    c ∈ (selector segments).toList ↔ ∃ s ∈ segments, c ∈ s.name.toList := by
  have hhyphen : c ∉ "-".toList := by
    intro hmem
    rw [List.mem_singleton.1 hmem] at hsep
    exact absurd hsep (by decide)
  rw [selector, String.toList_append, String.toList_append, String.toList_intercalate,
    List.mem_append, List.mem_append, or_iff_left hback, or_iff_right hfront,
    mem_intercalate_iff hhyphen]
  simp only [List.mem_map, exists_exists_and_eq_and, String.toList_ofList, Text.lower,
    Text.mem_lowerFrom_iff hself hpos hlt, words, List.mem_flatMap]
  constructor
  · rintro ⟨word, ⟨s, hs, hword⟩, hc⟩
    exact ⟨s, hs, (Text.mem_flatten_words_iff.1 (List.mem_flatten_of_mem hword hc)).1⟩
  · rintro ⟨s, hs, hc⟩
    obtain ⟨word, hword, hmem⟩ := List.mem_flatten.1 (Text.mem_flatten_words_iff.2 ⟨hc, hsep⟩)
    exact ⟨word, ⟨s, hs, hword⟩, hmem⟩

end PageRoutes.Segment
