import PageRoutes.Text.Replace
import PageRoutes.Proofs.PathParts
import Mathlib.Data.List.Basic

/-!
# Replaced texts

A separator that is not in the text to be replaced stays, so the parts of a text are replaced one by
one.  Replacing by something longer changes exactly the texts in which there is something to
replace.
-/

namespace PageRoutes.Text

variable {old new text front back : List Char} {sep : Char}

/-! ## Parts of a text -/

/-- A text without a separator begins a joined text exactly if it begins its first part. -/
theorem isPrefixOf_append_cons (hsep : sep ∉ old) :
    old.isPrefixOf (front ++ sep :: back) = old.isPrefixOf front := by
  rw [Bool.eq_iff_iff, List.isPrefixOf_iff_prefix, List.isPrefixOf_iff_prefix]
  constructor
  · intro h
    rcases List.prefix_or_prefix_of_prefix h (List.prefix_append front (sep :: back)) with
      hfront | ⟨rest, rfl⟩
    · exact hfront
    · rw [List.prefix_append_right_inj] at h
      cases rest with
      | nil => simp
      | cons c rest =>
        obtain ⟨rfl, -⟩ := List.cons_prefix_cons.1 h
        exact absurd (List.mem_append_right _ List.mem_cons_self) hsep
  · exact fun h => h.trans (List.prefix_append _ _)

/-- A separator that is not in the text to be replaced stays, and so both sides are replaced
apart. -/
theorem replaceFrom_append_cons (hold : old ≠ []) (hsep : sep ∉ old) {skip : Nat}
    (hskip : skip ≤ front.length) :
    replaceFrom old new skip (front ++ sep :: back) =
      replaceFrom old new skip front ++ sep :: replaceFrom old new 0 back := by
  induction front generalizing skip with
  | nil =>
    obtain rfl : skip = 0 := Nat.le_zero.1 hskip
    have hnone : old.isPrefixOf ([] ++ sep :: back) = false := by
      rw [isPrefixOf_append_cons hsep, ← Bool.not_eq_true, List.isPrefixOf_iff_prefix,
        List.prefix_nil]
      exact hold
    rw [List.nil_append] at hnone
    simp only [List.nil_append, replaceFrom, hnone, Bool.false_eq_true, if_false]
  | cons c front ih =>
    cases skip with
    | succ skip =>
      rw [List.cons_append, replaceFrom, replaceFrom, ih (Nat.le_of_succ_le_succ hskip)]
    | zero =>
      have hprefix : old.isPrefixOf (c :: front ++ sep :: back) = old.isPrefixOf (c :: front) :=
        isPrefixOf_append_cons hsep
      rw [List.cons_append] at hprefix
      rw [List.cons_append, replaceFrom, replaceFrom, hprefix]
      split
      · rename_i hfound
        -- the rest of what was found ends before the separator
        have hlength := (List.isPrefixOf_iff_prefix.1 hfound).length_le
        rw [List.length_cons] at hlength
        rw [ih (by omega), List.append_assoc]
      · rw [ih (Nat.zero_le _), List.cons_append]

theorem replaceAll_append_slash {old new : String} (hold : old ≠ "") (hslash : '/' ∉ old.toList)
    (front back : String) :
    replaceAll old new (front ++ ("/" ++ back)) =
      replaceAll old new front ++ ("/" ++ replaceAll old new back) := by
  rw [← String.toList_inj, replaceAll, Path.toList_append_slash,
    replaceFrom_append_cons (by simpa using hold) hslash (Nat.zero_le _)]
  simp [replaceAll]

/-! ## Replacing by something longer -/

/-- A text in which nothing is to be replaced stays. -/
theorem replaceFrom_eq_self (h : ¬old <:+: text) : replaceFrom old new 0 text = text := by
  induction text with
  | nil => rfl
  | cons c rest ih =>
    rw [List.infix_cons_iff, not_or] at h
    have hnone : old.isPrefixOf (c :: rest) = false := by
      rw [← Bool.not_eq_true, List.isPrefixOf_iff_prefix]
      exact h.1
    rw [replaceFrom, hnone, if_neg Bool.false_ne_true, ih h.2]

/-- Replacing by something that is no shorter drops no more than is left out in front. -/
theorem length_le_replaceFrom (hold : old ≠ []) (hlength : old.length ≤ new.length) (skip : Nat) :
    text.length ≤ (replaceFrom old new skip text).length + skip := by
  have hpos := List.length_pos_iff.2 hold
  induction text generalizing skip with
  | nil => exact Nat.zero_le _
  | cons c rest ih =>
    cases skip with
    | succ skip =>
      rw [replaceFrom, List.length_cons]
      have hrest := ih skip
      omega
    | zero =>
      rw [replaceFrom]
      split
      · have hrest := ih (old.length - 1)
        rw [List.length_append, List.length_cons]
        omega
      · have hrest := ih 0
        rw [List.length_cons, List.length_cons]
        omega

/-- Replacing by something longer makes a text longer in which there is something to replace. -/
theorem length_lt_replaceFrom (hold : old ≠ []) (hlength : old.length < new.length)
    (h : old <:+: text) : text.length < (replaceFrom old new 0 text).length := by
  have hpos := List.length_pos_iff.2 hold
  induction text with
  | nil => exact absurd (List.infix_nil.1 h) hold
  | cons c rest ih =>
    rw [replaceFrom]
    split
    · have hrest := @length_le_replaceFrom old new rest hold (Nat.le_of_lt hlength)
        (old.length - 1)
      rw [List.length_append, List.length_cons]
      omega
    · rename_i hnone
      rw [List.isPrefixOf_iff_prefix] at hnone
      have hrest := ih ((List.infix_cons_iff.1 h).resolve_left hnone)
      rw [List.length_cons, List.length_cons]
      omega

/-- Replacing by something longer leaves exactly those texts as they are in which there is nothing
to replace. -/
theorem replaceAll_eq_self_iff {old new text : String} (hold : old ≠ "")
    (hlength : old.toList.length < new.toList.length) :
    replaceAll old new text = text ↔ ¬old.toList <:+: text.toList := by
  rw [← String.toList_inj, replaceAll, String.toList_ofList]
  constructor
  · intro heq hinfix
    have hlonger := length_lt_replaceFrom (by simpa using hold) hlength hinfix
    rw [heq] at hlonger
    exact Nat.lt_irrefl _ hlonger
  · exact replaceFrom_eq_self

theorem replaceAll_eq_empty_iff {old new text : String} (hold : old ≠ "")
    (hlength : old.toList.length ≤ new.toList.length) :
    replaceAll old new text = "" ↔ text = "" := by
  constructor
  · intro hempty
    have hshorter :=
      @length_le_replaceFrom old.toList new.toList text.toList (by simpa using hold) hlength 0
    rw [← String.toList_inj, replaceAll, String.toList_ofList, String.toList_empty] at hempty
    rw [hempty, List.length_nil, Nat.zero_add, Nat.le_zero, List.length_eq_zero_iff] at hshorter
    rwa [← String.toList_inj, String.toList_empty]
  · rintro rfl
    rfl

/-! ## Endings -/

/-- An ending that a text has is left out. -/
theorem dropEnding_append (text ending : String) :
    dropEnding ending (text ++ ending) = text := by
  unfold dropEnding
  rw [String.toList_append, if_pos (by simp)]
  rw [← String.toList_inj]
  simp

end PageRoutes.Text
