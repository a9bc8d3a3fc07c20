import PageRoutes.Proofs.Accepted
import PageRoutes.Proofs.NameWords
import PageRoutes.Script.Module

/-!
# When a class name can be read

A class name is put together from the words of directory names, and nothing is put in front of
them.  Of names with letters, digits, hyphens, underscores and full stops no other signs than
letters and digits are left, so the class name can be read as a name unless it begins with a digit;
and this is decided by the first letter or digit of all the directory names.
-/

namespace PageRoutes

/-! ## Letters and digits -/

namespace Text

theorem toNat_lt_of_isAlphanum {c : Char} (h : c.isAlphanum = true) : c.toNat < 128 := by
  have hlt : ∀ last : Char, last.toNat < 128 → c.val ≤ last.val → c.toNat < 128 :=
    fun _ hlast hval => (UInt32.le_iff_toNat_le.1 hval).trans_lt hlast
  rcases Bool.or_eq_true_iff.1 h with h | hdigit
  · rcases Bool.or_eq_true_iff.1 h with hupper | hlower
    · exact hlt 'Z' (by decide) (of_decide_eq_true hupper).2
    · exact hlt 'z' (by decide) (of_decide_eq_true (Bool.and_eq_true_iff.1 hlower).2)
  · exact hlt '9' (by decide) (of_decide_eq_true (Bool.and_eq_true_iff.1 hdigit).2)

/-- The upper case of a letter is a letter, and that of a digit the digit. -/
theorem upperOf_of_isAlphanum {c : Char} (h : c.isAlphanum = true) :
    (∀ d ∈ upperOf c, d.isAlphanum = true) ∧
      (upperOf c).head?.map Char.isDigit = some c.isDigit := by
  have hcodes : ∀ n < 128, (Char.ofNat n).isAlphanum = true →
      (upperOf (Char.ofNat n)).all Char.isAlphanum = true ∧
        (upperOf (Char.ofNat n)).head?.map Char.isDigit = some (Char.ofNat n).isDigit := by
    decide +kernel
  have hcode := hcodes c.toNat (toNat_lt_of_isAlphanum h)
  rw [Char.ofNat_toNat, List.all_eq_true] at hcode
  exact hcode h

theorem isAlphanum_of_mem_capitalize {word : List Char} (h : ∀ c ∈ word, c.isAlphanum = true)
    {d : Char} (hd : d ∈ capitalize word) : d.isAlphanum = true := by
  cases word with
  | nil => exact absurd hd List.not_mem_nil
  | cons c rest =>
    rw [List.forall_mem_cons] at h
    rcases List.mem_append.1 hd with hfirst | hrest
    · exact (upperOf_of_isAlphanum h.1).1 d hfirst
    · exact h.2 d hrest

/-- Capital letters at the front of words change nothing about whether all of them together begin
with a digit. -/
theorem any_head?_flatMap_capitalize {words : List (List Char)}
    (h : ∀ word ∈ words, ∀ c ∈ word, c.isAlphanum = true) :
    (words.flatMap capitalize).head?.any Char.isDigit = words.flatten.head?.any Char.isDigit := by
  induction words with
  | nil => rfl
  | cons word rest ih =>
    rw [List.forall_mem_cons] at h
    rw [List.flatMap_cons, List.flatten_cons]
    cases word with
    | nil => exact ih h.2
    | cons c more =>
      have hdigit := (upperOf_of_isAlphanum (h.1 c List.mem_cons_self)).2
      obtain ⟨d, hd, hsame⟩ := Option.map_eq_some_iff.1 hdigit
      rw [capitalize, List.append_assoc, List.head?_append, hd, Option.some_or, List.cons_append,
        List.head?_cons, Option.any_some, Option.any_some, hsame]

end Text

/-! ## Names of a script -/

namespace Script

/-- Whether a character of the ASCII range can stand in a name of a script. -/
def isNameSign (c : Char) : Bool :=
  c.isAlphanum || c == '_' || c == '$'

/-- A text that a script can use as a name: it is not empty, has only letters, digits, `_` and `$`
of the ASCII range, and does not begin with a digit. -/
structure IsIdentifier (text : String) : Prop where
  ne_empty : text ≠ ""
  isNameSign : ∀ c ∈ text.toList, isNameSign c = true
  not_isDigit : text.toList.head?.any Char.isDigit = false

/-- A text that does not go on with a sign of a name. -/
def EndsName (rest : List Char) : Prop :=
  ∀ c, rest.head? = some c → isIdentifierPart c = false ∧ c ≠ '\\'

variable {c : Char} {rest : List Char}

/-- What can stand in a name goes on with one, and begins one if it is no digit. -/
theorem of_isNameSign (h : isNameSign c = true) :
    isIdentifierPart c = true ∧ c ≠ '\\' ∧ (c.isDigit = false ↔ isIdentifierStart c = true) := by
  have hcodes : ∀ n < 128, isNameSign (Char.ofNat n) = true →
      isIdentifierPart (Char.ofNat n) = true ∧ Char.ofNat n ≠ '\\' ∧
        ((Char.ofNat n).isDigit = false ↔ isIdentifierStart (Char.ofNat n) = true) := by
    decide +kernel
  have hlt : c.toNat < 128 := by
    rw [isNameSign, Bool.or_eq_true, Bool.or_eq_true, beq_iff_eq, beq_iff_eq] at h
    rcases h with (h | rfl) | rfl
    · exact Text.toNat_lt_of_isAlphanum h
    · decide
    · decide
  have hcode := hcodes c.toNat hlt
  rw [Char.ofNat_toNat] at hcode
  exact hcode h

/-- A name is read up to where it ends. -/
theorem readWord_append {cs : List Char} (hcs : ∀ c ∈ cs, isNameSign c = true)
    (hrest : EndsName rest) : readWord (cs ++ rest) = some (cs, false, rest) := by
  induction cs with
  | nil =>
    cases rest with
    | nil => simp [readWord]
    | cons c rest =>
      obtain ⟨hpart, hescape⟩ := hrest c rfl
      simp [readWord, hpart, hescape]
  | cons c cs ih =>
    rw [List.forall_mem_cons] at hcs
    obtain ⟨hpart, hescape, -⟩ := of_isNameSign hcs.1
    simp [readWord, hpart, hescape, ih hcs.2]

/-- A name is read as a word, whatever ends it. -/
theorem IsIdentifier.readToken?_append {text : String} (h : IsIdentifier text)
    (hrest : EndsName rest) : readToken? (text.toList ++ rest) = some (.word text, rest) := by
  have hword := readWord_append h.isNameSign hrest
  have hdigit := h.not_isDigit
  have hne : text.toList ≠ [] := by simpa using h.ne_empty
  obtain ⟨c, cs, heq⟩ := List.exists_cons_of_ne_nil hne
  have hstart : isIdentifierStart c = true := by
    refine (of_isNameSign (h.isNameSign c (heq ▸ List.mem_cons_self))).2.2.1 ?_
    simpa [heq] using hdigit
  rw [heq, List.cons_append] at hword ⊢
  simp [readToken?, hstart, readWordToken?, hword, ← heq]

section Numbers

variable {text : List Char} {token : Token}

theorem word?_of_endNumber {read : Token} (hread : read.word? = none)
    (h : endNumber read text = some (token, rest)) : token.word? = none := by
  rw [endNumber] at h
  split at h
  · cases h
  · obtain ⟨rfl, -⟩ := Prod.mk.inj (Option.some.inj h)
    exact hread

theorem word?_of_readExponent (h : readExponent text = some (token, rest)) :
    token.word? = none := by
  have hdigits : ∀ digits : List Char,
      (if digits.head?.any Char.isDigit then endNumber .number (skipDigits 10 digits) else none) =
        some (token, rest) → token.word? = none := by
    intro digits h
    split at h
    · exact word?_of_endNumber rfl h
    · cases h
  unfold readExponent at h
  split at h
  · exact hdigits _ h
  · exact hdigits _ h
  · exact word?_of_endNumber rfl h

theorem word?_of_readBased {base : Nat} (h : readBased base text = some (token, rest)) :
    token.word? = none := by
  unfold readBased at h
  split at h
  · cases h
  · split at h <;> exact word?_of_endNumber rfl h

/-- What is read as a number is no word. -/
theorem word?_of_readNumber (h : readNumber text = some (token, rest)) : token.word? = none := by
  unfold readNumber at h
  split at h
  case h_7 =>
    unfold readDecimal at h
    dsimp only at h
    split at h
    · obtain ⟨rfl, -⟩ := Prod.mk.inj (Option.some.inj h)
      rfl
    · split at h
      · exact word?_of_endNumber rfl h
      · split at h <;> exact word?_of_readExponent h
  all_goals exact word?_of_readBased h

end Numbers

/-- What begins with a digit is not read as a word. -/
theorem not_isDigit_of_readToken? {text : List Char} {word : String}
    (h : readToken? text = some (.word word, rest)) : text.head?.any Char.isDigit = false := by
  cases text with
  | nil => rfl
  | cons c more =>
    by_contra hdigit
    have hdigit : c.isDigit = true := by simpa using hdigit
    have hsign : isNameSign c = true := by
      simp [isNameSign, Char.isAlphanum, hdigit]
    obtain ⟨-, hescape, hstart⟩ := of_isNameSign hsign
    have hstart : isIdentifierStart c = false := by
      rw [← Bool.not_eq_true, ← hstart, hdigit]
      decide
    simp only [readToken?, hstart, hdigit, beq_eq_false_iff_ne.2 hescape, Bool.or_self,
      Bool.true_or, if_true, Bool.false_eq_true, if_false] at h
    cases word?_of_readNumber h

/-- Signs that can stand in names are read as one word exactly if they are a name. -/
theorem isIdentifier_iff_readToken? {text : String} (hne : text ≠ "")
    (hsigns : ∀ c ∈ text.toList, isNameSign c = true) (hrest : EndsName rest) :
    readToken? (text.toList ++ rest) = some (.word text, rest) ↔ IsIdentifier text := by
  refine ⟨fun h => ⟨hne, hsigns, ?_⟩, fun h => h.readToken?_append hrest⟩
  obtain ⟨c, cs, heq⟩ := List.exists_cons_of_ne_nil (l := text.toList) (by simpa using hne)
  have hdigit := not_isDigit_of_readToken? h
  rw [heq] at hdigit ⊢
  exact hdigit

/-- No word with a meaning of its own ends like the name of a component. -/
theorem Word.isReserved_of_isSuffix {word : String} (h : "Component".toList <:+ word.toList) :
    Word.isReserved word = false := by
  have hwords : ∀ other ∈ Word.keywords ++ Word.constants ++ Word.halfKeywords ++
      Word.futureKeywords, ¬"Component".toList <:+ other.toList := by
    decide
  rw [← Bool.not_eq_true]
  intro hreserved
  refine hwords word ?_ h
  simpa [Word.isReserved, Word.isKeyword, or_assoc] using hreserved

end Script

/-! ## Class names -/

namespace Segment

variable {d : List Segment}

/-- A segment whose name has only letters and digits of the ASCII range, hyphens, underscores and
full stops. -/
def HasPlainName (s : Segment) : Prop :=
  ∀ c ∈ s.name.toList, c.isAlphanum = true ∨ c = '-' ∨ c = '_' ∨ c = '.'

instance (s : Segment) : Decidable s.HasPlainName :=
  decidable_of_iff (s.name.toList.all fun c => c.isAlphanum || ['-', '_', '.'].contains c)
    (by simp [HasPlainName])

/-- The first sign of the names that is left when their words are put together. -/
def firstSign? (d : List Segment) : Option Char :=
  (d.flatMap fun s => s.name.toList).find? (!Text.isSeparator ·)

theorem flatten_words (d : List Segment) :
    (words d).flatten = (d.flatMap fun s => s.name.toList).filter (!Text.isSeparator ·) := by
  induction d with
  | nil => rfl
  | cons s rest ih =>
    rw [words] at ih
    rw [words, List.flatMap_cons, List.flatten_append, ih, Text.words, Text.flatten_wordsBy,
      List.flatMap_cons, List.filter_append]

/-- Of plain names only letters and digits are left. -/
theorem isAlphanum_of_mem_words (h : ∀ s ∈ d, s.HasPlainName) :
    ∀ word ∈ words d, ∀ c ∈ word, c.isAlphanum = true := by
  intro word hword c hc
  have hmem := List.mem_flatten_of_mem hword hc
  rw [flatten_words, List.mem_filter, List.mem_flatMap] at hmem
  obtain ⟨⟨s, hs, hsign⟩, hsep⟩ := hmem
  rcases h s hs c hsign with hplain | rfl | rfl | rfl
  · exact hplain
  all_goals exact absurd hsep (by decide)

theorem toList_identifier (d : List Segment) :
    (identifier d).toList =
      (words d).flatMap Text.capitalize ++ "RouteIndexComponent".toList := by
  rw [identifier, String.toList_append, String.toList_ofList]

/-- A class name made of plain names begins with a digit exactly if the names do, separators
apart. -/
theorem any_head?_identifier (h : ∀ s ∈ d, s.HasPlainName) :
    (identifier d).toList.head?.any Char.isDigit = (firstSign? d).any Char.isDigit := by
  have hor : ∀ first : Option Char,
      (first.or "RouteIndexComponent".toList.head?).any Char.isDigit = first.any Char.isDigit := by
    intro first
    cases first <;> rfl
  rw [toList_identifier, List.head?_append, hor,
    Text.any_head?_flatMap_capitalize (isAlphanum_of_mem_words h), flatten_words, List.head?_filter,
    firstSign?]

theorem isNameSign_of_mem_identifier (h : ∀ s ∈ d, s.HasPlainName) :
    ∀ c ∈ (identifier d).toList, Script.isNameSign c = true := by
  have hsign : ∀ {c : Char}, c.isAlphanum = true → Script.isNameSign c = true := by
    intro c hc
    rw [Script.isNameSign, hc]
    rfl
  rw [toList_identifier, List.forall_mem_append]
  refine ⟨fun c hc => ?_, List.all_eq_true.1 (by decide)⟩
  obtain ⟨word, hword, hmem⟩ := List.mem_flatMap.1 hc
  exact hsign (Text.isAlphanum_of_mem_capitalize (isAlphanum_of_mem_words h word hword) hmem)

theorem isSuffix_identifier (d : List Segment) : "Component".toList <:+ (identifier d).toList := by
  rw [toList_identifier]
  exact List.IsSuffix.trans (by decide) (List.suffix_append _ _)

end Segment

/-! ## Pages -/

namespace Page

/-- What a script makes of the class name of a page. -/
structure NamesClass (page : Page) : Prop where
  /-- The class name is a name exactly if its directory names do not begin with a digit, separators
  apart. -/
  isIdentifier_iff : Script.IsIdentifier page.identifier ↔
    (Segment.firstSign? page.segments).any Char.isDigit = false
  /-- Exactly then it is read as one word, whatever ends it. -/
  readToken?_iff : ∀ rest, Script.EndsName rest →
    (Script.readToken? (page.identifier.toList ++ rest) = some (.word page.identifier, rest) ↔
      Script.IsIdentifier page.identifier)
  /-- The word has no meaning of its own. -/
  isReserved_eq : Script.Word.isReserved page.identifier = false

variable {page : Page}

/-- What is to be known of a class name, whichever kind of page it belongs to. -/
theorem namesClass_of_isSuffix (hsuffix : "Component".toList <:+ page.identifier.toList)
    (hsigns : ∀ c ∈ page.identifier.toList, Script.isNameSign c = true)
    (hdigit : page.identifier.toList.head?.any Char.isDigit =
      (Segment.firstSign? page.segments).any Char.isDigit) : page.NamesClass := by
  have hne : page.identifier ≠ "" := by
    intro heq
    rw [heq] at hsuffix
    exact absurd hsuffix (by decide)
  refine ⟨⟨fun h => hdigit ▸ h.not_isDigit, fun h => ⟨hne, hsigns, hdigit.trans h⟩⟩,
    fun rest hrest => Script.isIdentifier_iff_readToken? hne hsigns hrest,
    Script.Word.isReserved_of_isSuffix hsuffix⟩

/-- The class name of a page without directories is fixed. -/
theorem IsParsed.identifier_cases (h : page.IsParsed) :
    page.segments = [] ∧ page.identifier ∈ [notFoundIdentifier, rootIndexIdentifier] ∨
      page.identifier = Segment.identifier page.segments := by
  obtain ⟨source, hparse⟩ := h
  rcases parse_eq_ok hparse with hpage | ⟨segments, hpage, -, -⟩
  · rw [hpage]
    exact Or.inl ⟨rfl, List.mem_cons_self⟩
  · rw [hpage, ofSegments]
    cases segments with
    | nil => exact Or.inl ⟨rfl, List.mem_cons_of_mem _ (List.mem_singleton_self _)⟩
    | cons first others => exact Or.inr rfl

theorem IsParsed.namesClass (h : page.IsParsed) (hnames : ∀ s ∈ page.segments, s.HasPlainName) :
    page.NamesClass := by
  rcases h.identifier_cases with ⟨hnil, hfixed⟩ | hidentifier
  · have hall : ∀ identifier ∈ [notFoundIdentifier, rootIndexIdentifier],
        "Component".toList <:+ identifier.toList ∧
          identifier.toList.all Script.isNameSign = true ∧
            identifier.toList.head?.any Char.isDigit = false := by
      decide
    obtain ⟨hsuffix, hsigns, hdigit⟩ := hall _ hfixed
    refine namesClass_of_isSuffix hsuffix (List.all_eq_true.1 hsigns) ?_
    rw [hdigit, hnil]
    rfl
  · refine namesClass_of_isSuffix ?_ ?_ ?_ <;> rw [hidentifier]
    · exact Segment.isSuffix_identifier _
    · exact Segment.isNameSign_of_mem_identifier hnames
    · exact Segment.any_head?_identifier hnames

end Page

/-! ## Whole compilations -/

namespace CompileInput

/-- In every compilation that ends well, the class name of a page whose directories have plain names
can be used as a name exactly if these do not begin with a digit. -/
theorem namesClass_of_compile {classesOf : ClassReader} {input : CompileInput}
    {compiled : CompiledRoutes} (h : input.compile classesOf = .ok compiled) :
    ∀ page ∈ compiled.pages, (∀ s ∈ page.segments, s.HasPlainName) → page.NamesClass := by
  obtain ⟨registry, site, haccepted⟩ := compile_eq_ok_iff.1 h
  exact fun page hpage => (haccepted.isParsed hpage).namesClass

/-- A directory whose name begins with a digit is accepted. -/
theorem exists_compile_numbered :
    ∃ compiled, compile Script.classReader ⟨["2024/_x.y/index.html"], [], []⟩ = .ok compiled ∧
      compiled.pages = [⟨"2024/_x.y/index.html", "2024/_x.y", [.literal "2024", .parameter "x.y"],
        "2024XYRouteIndexComponent", "app-2024-x-y-route-index", .route, 0⟩] := by
  refine map_eq_ok_iff.1 ?_
  decide +kernel

theorem namesClass_of_compile_numbered :
    ∃ compiled page, compile Script.classReader ⟨["2024/_x.y/index.html"], [], []⟩ = .ok compiled ∧
      page ∈ compiled.pages ∧ (∀ s ∈ page.segments, s.HasPlainName) ∧ page.NamesClass := by
  obtain ⟨compiled, h, hpages⟩ := exists_compile_numbered
  have hpage := hpages ▸ List.mem_singleton_self _
  have hplain : ∀ s ∈ [Segment.literal "2024", .parameter "x.y"], s.HasPlainName := by decide
  exact ⟨compiled, _, h, hpage, hplain, namesClass_of_compile h _ hpage hplain⟩

/-- The class name of a page in such a directory is no name, and its component cannot be read. -/
theorem class_name_not_isIdentifier :
    ∃ compiled, compile Script.classReader ⟨["2024/_x.y/index.html"], [], []⟩ = .ok compiled ∧
      (∀ page ∈ compiled.pages, ∀ s ∈ page.segments, s.HasPlainName) ∧
      ∃ page ∈ compiled.pages, ¬Script.IsIdentifier page.identifier ∧
        Script.classReader page.componentPath page.componentSource =
          .error Script.Module.faultMessage := by
  obtain ⟨compiled, h, hpages⟩ := exists_compile_numbered
  refine ⟨compiled, h, ?_, ?_⟩
  · rw [hpages]
    decide
  · rw [hpages]
    refine ⟨_, List.mem_singleton_self _, fun hname => ?_, by decide +kernel⟩
    exact absurd hname.not_isDigit (by decide)

end CompileInput

end PageRoutes
