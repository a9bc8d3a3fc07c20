import PageRoutes.Proofs.NameWords

/-!
# Words are split once and for all

A word is split no further, and names that are joined by separators have the words of the names, one
after the other.  So nothing is left to say about a name once its words are known: joined by any
separator they are split into the same words again, and a component is called the same whether it
is named after its segments or after one literal that spells out all their words.

The words can also be collected in one pass over a name that keeps the word read so far and notes
whether its last character is a lower case letter or a digit.
-/

namespace PageRoutes

/-! ## Words of words and of joined names -/

namespace Text

variable {isUpper isLower : Char → Bool} {word : List Char} {c sep : Char}

/-- A word is its only word. -/
theorem IsWord.wordsBy_eq (h : IsWord isUpper isLower word) :
    wordsBy isUpper isLower word = [word] := by
  have hchain : word.IsChain fun a b => sameWord isUpper isLower a b = true := by
    refine h.isChain.imp_of_mem_imp fun a b ha hb hab => ?_
    exact sameWord_iff.2 ⟨h.isSeparator_eq a ha, h.isSeparator_eq b hb, hab⟩
  have hall : word.all (!isSeparator ·) = true := by
    simpa using h.isSeparator_eq
  rw [wordsBy, List.splitBy_of_isChain h.ne_nil hchain, List.filter_singleton, hall]
  rfl

theorem flatMap_wordsBy_eq_self {words : List (List Char)}
    (h : ∀ word ∈ words, IsWord isUpper isLower word) :
    words.flatMap (wordsBy isUpper isLower) = words := by
  induction words with
  | nil => rfl
  | cons word rest ih =>
    rw [List.forall_mem_cons] at h
    rw [List.flatMap_cons, h.1.wordsBy_eq, ih h.2, List.singleton_append]

/-- Where two neighbours do not belong to one word, a name can be cut between them. -/
theorem wordsBy_append_cons {front : List Char} (back : List Char)
    (h : ∀ a ∈ front.getLast?, sameWord isUpper isLower a c = false) :
    wordsBy isUpper isLower (front ++ c :: back) =
      wordsBy isUpper isLower front ++ wordsBy isUpper isLower (c :: back) := by
  rw [wordsBy, List.splitBy_append_cons back h, List.filter_append, wordsBy, wordsBy]

theorem sameWord_separator (hsep : isSeparator sep = true) (c : Char) :
    sameWord isUpper isLower sep c = false ∧ sameWord isUpper isLower c sep = false := by
  simp [sameWord, hsep]

/-- A separator in front of a name makes no difference. -/
theorem wordsBy_separator_cons (hsep : isSeparator sep = true) (name : List Char) :
    wordsBy isUpper isLower (sep :: name) = wordsBy isUpper isLower name := by
  have hnone : wordsBy isUpper isLower [sep] = [] := by
    simp [wordsBy, List.splitBy, List.splitBy.loop, hsep]
  cases name with
  | nil => exact hnone
  | cons c rest =>
    have hcut : ∀ a ∈ [sep].getLast?, sameWord isUpper isLower a c = false := by
      simpa using (sameWord_separator hsep c).1
    rw [← List.singleton_append, wordsBy_append_cons rest hcut, hnone, List.nil_append]

theorem wordsBy_append_separator (hsep : isSeparator sep = true) (front back : List Char) :
    wordsBy isUpper isLower (front ++ sep :: back) =
      wordsBy isUpper isLower front ++ wordsBy isUpper isLower back := by
  rw [wordsBy_append_cons back fun a _ => (sameWord_separator hsep a).2,
    wordsBy_separator_cons hsep]

/-- Names that are joined by a separator have the words of the names. -/
theorem wordsBy_intercalate (hsep : isSeparator sep = true) (names : List (List Char)) :
    wordsBy isUpper isLower ([sep].intercalate names) =
      names.flatMap (wordsBy isUpper isLower) := by
  induction names with
  | nil => rfl
  | cons name rest ih =>
    cases rest with
    | nil => rw [List.intercalate_singleton, List.flatMap_singleton]
    | cons next rest =>
      rw [List.intercalate_cons_cons, List.append_assoc, List.singleton_append,
        wordsBy_append_separator hsep, ih]
      exact List.flatMap_cons.symm

/-- So words that are joined by a separator are found again. -/
theorem wordsBy_intercalate_words (hsep : isSeparator sep = true) {words : List (List Char)}
    (h : ∀ word ∈ words, IsWord isUpper isLower word) :
    wordsBy isUpper isLower ([sep].intercalate words) = words := by
  rw [wordsBy_intercalate hsep, flatMap_wordsBy_eq_self h]

/-! ## Words in one pass -/

/-- The word read so far, if there is one. -/
def pending (word : List Char) : List (List Char) :=
  if word.isEmpty then [] else [word]

/-- The words that are found in one pass over what is left of a name, from the word read so far and
from whether an upper case letter would begin a new one. -/
def scanWords (isUpper isLower : Char → Bool) (word : List Char) (small : Bool) :
    List Char → List (List Char)
  | [] => pending word
  | c :: rest =>
    if isSeparator c then pending word ++ scanWords isUpper isLower [] false rest
    else if isUpper c && small && !word.isEmpty then
      pending word ++ scanWords isUpper isLower [c] (isSmall isLower c) rest
    else scanWords isUpper isLower (word ++ [c]) (isSmall isLower c) rest

/-- What holds between two steps of the pass: what is read so far is a word or nothing, and it is
noted what its last character is. -/
structure IsReadSoFar (isUpper isLower : Char → Bool) (word : List Char) (small : Bool) : Prop where
  isWord : word ≠ [] → IsWord isUpper isLower word
  small_eq : small = word.getLast?.any (isSmall isLower)

section Pass

variable {small : Bool}

theorem isReadSoFar_nil (isUpper isLower : Char → Bool) :
    IsReadSoFar isUpper isLower [] false :=
  ⟨fun hne => absurd rfl hne, rfl⟩

theorem IsReadSoFar.wordsBy_eq (h : IsReadSoFar isUpper isLower word small) :
    wordsBy isUpper isLower word = pending word := by
  by_cases hnil : word = []
  · rw [hnil]
    rfl
  · rw [(h.isWord hnil).wordsBy_eq, pending, List.isEmpty_eq_false_iff.2 hnil]
    rfl

/-- A character that begins no new word goes on with the word read so far. -/
theorem IsReadSoFar.concat (h : IsReadSoFar isUpper isLower word small)
    (hsep : isSeparator c = false) (hgoes : small = true → isUpper c = false) :
    IsReadSoFar isUpper isLower (word ++ [c]) (isSmall isLower c) := by
  refine ⟨fun _ => ?_, by simp⟩
  by_cases hnil : word = []
  · rw [hnil]
    exact ⟨List.cons_ne_nil _ _, List.forall_mem_singleton.2 hsep, List.isChain_singleton c⟩
  have hword := h.isWord hnil
  refine ⟨by simp, ?_, List.isChain_append.2 ⟨hword.isChain, List.isChain_singleton c, ?_⟩⟩
  · exact List.forall_mem_append.2 ⟨hword.isSeparator_eq, List.forall_mem_singleton.2 hsep⟩
  · intro a ha b hb hsmall
    obtain rfl : c = b := by simpa using hb
    refine hgoes ?_
    rw [h.small_eq, ha, Option.any_some, hsmall]

/-- The pass finds the words of the word read so far together with what is left. -/
theorem IsReadSoFar.scanWords_eq (h : IsReadSoFar isUpper isLower word small)
    (rest : List Char) :
    scanWords isUpper isLower word small rest = wordsBy isUpper isLower (word ++ rest) := by
  induction rest generalizing word small with
  | nil => rw [List.append_nil, scanWords, h.wordsBy_eq]
  | cons c rest ih =>
    rw [scanWords]
    by_cases hsep : isSeparator c = true
    · rw [if_pos hsep, wordsBy_append_separator hsep, h.wordsBy_eq, ih (isReadSoFar_nil _ _),
        List.nil_append]
    rw [if_neg hsep]
    have hsep : isSeparator c = false := by simpa using hsep
    by_cases hbreak : (isUpper c && small && !word.isEmpty) = true
    · -- an upper case letter behind a small one: the name can be cut here
      have hcut : ∀ a ∈ word.getLast?, sameWord isUpper isLower a c = false := by
        intro a ha
        rw [h.small_eq, ha] at hbreak
        simp only [Option.any_some, Bool.and_eq_true] at hbreak
        rw [← Bool.not_eq_true, sameWord_iff]
        rintro ⟨-, -, hgoes⟩
        rw [hgoes hbreak.1.2] at hbreak
        exact Bool.false_ne_true hbreak.1.1
      have hone : IsReadSoFar isUpper isLower [c] (isSmall isLower c) :=
        (isReadSoFar_nil isUpper isLower).concat hsep fun hsmall => nomatch hsmall
      rw [if_pos hbreak, wordsBy_append_cons rest hcut, h.wordsBy_eq, ih hone,
        List.singleton_append]
    · have hgoes : small = true → isUpper c = false := by
        intro hsmall
        have hne : word.isEmpty = false := by
          rw [List.isEmpty_eq_false_iff]
          rintro rfl
          have hnone : true = false := hsmall.symm.trans h.small_eq
          exact absurd hnone.symm Bool.false_ne_true
        simpa [hsmall, hne] using hbreak
      rw [if_neg hbreak, ih (h.concat hsep hgoes), List.append_assoc, List.singleton_append]

end Pass

/-! ## Canonical words -/

/-- What holds of the words of all names, if the given characters count as letters of upper and of
lower case. -/
structure SplitsCanonically (isUpper isLower : Char → Bool) : Prop where
  /-- Every word is a word by itself: it is not empty and has neither a separator nor a place where
  a new word would begin. -/
  isWord : ∀ name, ∀ word ∈ wordsBy isUpper isLower name, IsWord isUpper isLower word
  /-- The words make up the name without its separators. -/
  flatten_eq : ∀ name, (wordsBy isUpper isLower name).flatten = name.filter (!isSeparator ·)
  /-- A word is split no further. -/
  split_word : ∀ name, ∀ word ∈ wordsBy isUpper isLower name,
    wordsBy isUpper isLower word = [word]
  /-- The words of a name, joined by any separator, are split into the same words. -/
  split_joined : ∀ sep, isSeparator sep = true → ∀ name,
    wordsBy isUpper isLower ([sep].intercalate (wordsBy isUpper isLower name)) =
      wordsBy isUpper isLower name
  /-- So are the words of several names. -/
  split_all_joined : ∀ sep, isSeparator sep = true → ∀ names : List (List Char),
    wordsBy isUpper isLower ([sep].intercalate (names.flatMap (wordsBy isUpper isLower))) =
      names.flatMap (wordsBy isUpper isLower)
  /-- The words are those that are found in one pass. -/
  scan_eq : ∀ name, scanWords isUpper isLower [] false name = wordsBy isUpper isLower name

/-- Whichever letters count as upper and lower case, names are split canonically. -/
theorem splitsCanonically (isUpper isLower : Char → Bool) : SplitsCanonically isUpper isLower where
  isWord _ _ := isWord_of_mem_wordsBy
  flatten_eq := flatten_wordsBy isUpper isLower
  split_word _ _ hword := (isWord_of_mem_wordsBy hword).wordsBy_eq
  split_joined _ hsep _ := wordsBy_intercalate_words hsep fun _ => isWord_of_mem_wordsBy
  split_all_joined _ hsep names := by
    refine wordsBy_intercalate_words hsep fun word hword => ?_
    obtain ⟨name, -, hmem⟩ := List.mem_flatMap.1 hword
    exact isWord_of_mem_wordsBy hmem
  scan_eq name := (isReadSoFar_nil isUpper isLower).scanWords_eq name

end Text

/-! ## Names of components -/

namespace Segment

/-- The one literal whose name consists of all words of some segments, joined by hyphens. -/
def spelledOut (d : List Segment) : Segment :=
  .literal ("-".intercalate ((words d).map String.ofList))

theorem words_spelledOut (d : List Segment) : words [spelledOut d] = words d := by
  have hname : (spelledOut d).name.toList = ['-'].intercalate (words d) := by
    rw [spelledOut, name, String.toList_intercalate, List.map_map]
    congr 1
    exact (List.map_congr_left fun word _ => String.toList_ofList).trans (List.map_id _)
  rw [words, List.flatMap_singleton, Text.words, hname]
  exact Text.wordsBy_intercalate_words (by decide) fun _ => isWord_of_mem_words

/-- Names are split canonically, so a component is named alike after its segments and after the one
literal that spells out their words. -/
theorem isNamedByWords (isUpper isLower : Char → Bool) (d : List Segment) :
    Text.SplitsCanonically isUpper isLower ∧
      identifier [spelledOut d] = identifier d ∧ selector [spelledOut d] = selector d := by
  refine ⟨Text.splitsCanonically isUpper isLower, ?_, ?_⟩
  · rw [identifier, identifier, words_spelledOut]
  · rw [selector, selector, words_spelledOut]

example : spelledOut [.literal "my_page", .nestedScope "v2 API", .parameter "userId"] =
    .literal "my-page-v2-API-user-Id" := by
  decide +kernel

end Segment

end PageRoutes
