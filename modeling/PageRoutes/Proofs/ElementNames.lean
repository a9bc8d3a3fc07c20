import PageRoutes.Proofs.Accepted
import PageRoutes.Proofs.NameWords
import PageRoutes.Script.Module

/-!
# When two components share an element name

The class name and the element name of a component are made from the same words.  The class name
keeps the case of all letters but the first of each word, the element name drops it.  Only class
names have to be distinct, so the element names of two accepted pages are the same exactly if their
words agree but for the case of letters.
-/

namespace PageRoutes

/-! ## Words in lower case -/

namespace Text

theorem lower_ne_nil {cs : List Char} (h : cs ≠ []) : lower cs ≠ [] := by
  cases cs with
  | nil => exact absurd rfl h
  | cons c rest =>
    rw [lower, lowerFrom, ne_eq, List.append_eq_nil_iff, not_and_or]
    refine Or.inl ?_
    split
    · exact List.cons_ne_nil _ _
    · unfold lowerOf
      split <;> exact List.cons_ne_nil _ _

/-- A text whose letters are all in lower case stays. -/
theorem lowerFrom_eq_self {before cs : List Char} (h : ∀ c ∈ cs, lowerOf c = [c]) :
    lowerFrom before cs = cs := by
  induction cs generalizing before with
  | nil => rfl
  | cons c rest ih =>
    rw [List.forall_mem_cons] at h
    have hsigma : c ≠ 'Σ' := by
      rintro rfl
      exact absurd h.1 (by decide +kernel)
    rw [lowerFrom, if_neg hsigma, h.1, ih h.2]
    rfl

end Text

namespace Segment

variable {d e : List Segment}

theorem lower_word_of_mem_words {word : List Char} (h : word ∈ (words d).map Text.lower) :
    word ≠ [] ∧ '-' ∉ word := by
  obtain ⟨w, hw, rfl⟩ := List.mem_map.1 h
  have hword := isWord_of_mem_words hw
  refine ⟨Text.lower_ne_nil hword.ne_nil, ?_⟩
  rw [Text.lower, Text.mem_lowerFrom_iff (by decide +kernel) (by decide) (by decide)]
  intro hmem
  exact absurd (hword.isSeparator_eq _ hmem) (by decide)

/-- Element names are the same exactly if their words are the same in lower case. -/
theorem selector_eq_iff :
    selector d = selector e ↔ (words d).map Text.lower = (words e).map Text.lower := by
  have htexts : ∀ ws : List (List Char),
      (ws.map fun w => String.ofList (Text.lower w)).map String.toList = ws.map Text.lower := by
    intro ws
    simp
  rw [selector, selector, ← String.toList_inj]
  simp only [String.toList_append, List.append_left_inj, List.append_right_inj,
    String.toList_intercalate, htexts]
  exact intercalate_inj (fun _ => lower_word_of_mem_words) (fun _ => lower_word_of_mem_words)

end Segment

/-! ## Pages -/

namespace Page

variable {p q page : Page}

/-- The segments that a page is named after: the root is named like a directory `root`. -/
def namingSegments (page : Page) : List Segment :=
  if page.segments = [] then [.literal "root"] else page.segments

/-- The words that a page is named after. -/
def nameWords (page : Page) : List (List Char) :=
  Segment.words page.namingSegments

theorem IsParsed.names_eq (h : page.IsParsed) (hrole : page.role ≠ .notFound) :
    page.identifier = Segment.identifier page.namingSegments ∧
      page.selector = Segment.selector page.namingSegments := by
  obtain ⟨source, hparse⟩ := h
  rcases parse_eq_ok hparse with hpage | ⟨segments, hpage, -, -⟩
  · rw [hpage] at hrole
    exact absurd rfl hrole
  · rw [hpage, namingSegments, ofSegments]
    cases segments with
    | nil =>
      have hidentifier : rootIndexIdentifier = Segment.identifier [.literal "root"] := by
        decide +kernel
      have hselector : "app-root-route-index" = Segment.selector [.literal "root"] := by
        decide +kernel
      exact ⟨hidentifier, hselector⟩
    | cons first others => exact ⟨rfl, rfl⟩

theorem IsParsed.of_notFound (h : page.IsParsed) (hrole : page.role = .notFound) :
    page.identifier = notFoundIdentifier ∧ page.selector = "app-not-found" := by
  obtain ⟨source, hparse⟩ := h
  rcases parse_eq_ok hparse with hpage | ⟨segments, hpage, -, -⟩
  · rw [hpage]
    exact ⟨rfl, rfl⟩
  · rw [hpage, ofSegments] at hrole
    dsimp only at hrole
    split at hrole <;> cases hrole

/-- The page for unknown addresses shares its element name with no other kind of page. -/
theorem selector_ne_notFound (segments : List Segment) :
    Segment.selector segments ≠ "app-not-found" := by
  intro heq
  have hlast := congrArg (fun text : String => text.toList.getLast?) heq
  rw [Segment.selector, String.toList_append,
    List.getLast?_append_of_ne_nil _ (by decide)] at hlast
  exact absurd hlast (by decide)

/-- Pages that were read share an element name exactly if both are the page for unknown addresses,
or neither is and their words agree but for the case of letters. -/
theorem selector_eq_iff (hp : p.IsParsed) (hq : q.IsParsed) :
    p.selector = q.selector ↔ p.role = .notFound ∧ q.role = .notFound ∨
      p.role ≠ .notFound ∧ q.role ≠ .notFound ∧
        p.nameWords.map Text.lower = q.nameWords.map Text.lower := by
  by_cases hprole : p.role = .notFound <;> by_cases hqrole : q.role = .notFound
  · simp [(hp.of_notFound hprole).2, (hq.of_notFound hqrole).2, hprole, hqrole]
  · have hne := selector_ne_notFound q.namingSegments
    simp [(hp.of_notFound hprole).2, (hq.names_eq hqrole).2, hprole, hqrole, hne.symm]
  · have hne := selector_ne_notFound p.namingSegments
    simp [(hp.names_eq hprole).2, (hq.of_notFound hqrole).2, hprole, hqrole, hne]
  · rw [(hp.names_eq hprole).2, (hq.names_eq hqrole).2, Segment.selector_eq_iff]
    simp [hprole, hqrole, nameWords]

/-- Pages with the same words have one class name. -/
theorem identifier_eq_of_nameWords_eq (hp : p.IsParsed) (hq : q.IsParsed)
    (hprole : p.role ≠ .notFound) (hqrole : q.role ≠ .notFound)
    (heq : p.nameWords = q.nameWords) : p.identifier = q.identifier := by
  rw [nameWords, nameWords] at heq
  rw [(hp.names_eq hprole).1, (hq.names_eq hqrole).1, Segment.identifier, Segment.identifier, heq]

/-- Where all names are in lower case, so are the words. -/
theorem map_lower_nameWords (h : ∀ s ∈ page.segments, ∀ c ∈ s.name.toList, Text.lowerOf c = [c]) :
    page.nameWords.map Text.lower = page.nameWords := by
  have hroot : "root".toList.all (fun c => Text.lowerOf c == [c]) = true := by
    decide +kernel
  have hnaming : ∀ s ∈ page.namingSegments, ∀ c ∈ s.name.toList, Text.lowerOf c = [c] := by
    rw [namingSegments]
    split
    · exact List.forall_mem_singleton.2 fun c hc => beq_iff_eq.1 (List.all_eq_true.1 hroot c hc)
    · exact h
  refine (List.map_congr_left fun word hword => ?_).trans (List.map_id _)
  obtain ⟨s, hs, hmem⟩ := List.mem_flatMap.1 hword
  refine Text.lowerFrom_eq_self fun c hc => hnaming s hs c ?_
  exact (Text.mem_flatten_words_iff.1 (List.mem_flatten_of_mem hmem hc)).1

end Page

/-! ## Whole compilations -/

/-- When the pages of a compilation share element names. -/
structure Page.NamesElements (pages : List Page) : Prop where
  /-- Two pages share an element name exactly if their words agree but for the case of letters; the
  page for unknown addresses shares its own with no other. -/
  selector_eq_iff : ∀ p ∈ pages, ∀ q ∈ pages, p ≠ q →
    (p.selector = q.selector ↔ p.role ≠ .notFound ∧ q.role ≠ .notFound ∧
      p.nameWords.map Text.lower = q.nameWords.map Text.lower)
  /-- No two pages have the same words, letter by letter. -/
  nameWords_ne : ∀ p ∈ pages, ∀ q ∈ pages, p ≠ q → p.role ≠ .notFound → q.role ≠ .notFound →
    p.nameWords ≠ q.nameWords
  /-- So no element name is shared where all names are in lower case. -/
  nodup_of_lower :
    (∀ page ∈ pages, ∀ s ∈ page.segments, ∀ c ∈ s.name.toList, Text.lowerOf c = [c]) →
      (pages.map (·.selector)).Nodup

namespace CompileInput

/-- In every compilation that ends well, pages share an element name exactly if their words differ
in nothing but the case of letters. -/
theorem namesElements_of_compile {classesOf : ClassReader} {input : CompileInput}
    {compiled : CompiledRoutes} (h : input.compile classesOf = .ok compiled) :
    Page.NamesElements compiled.pages := by
  obtain ⟨registry, site, haccepted⟩ := compile_eq_ok_iff.1 h
  have hwords : ∀ p ∈ compiled.pages, ∀ q ∈ compiled.pages, p ≠ q → p.role ≠ .notFound →
      q.role ≠ .notFound → p.nameWords ≠ q.nameWords := by
    intro p hp q hq hne hprole hqrole heq
    exact hne (haccepted.eq_of_identifier_eq hp hq (Page.identifier_eq_of_nameWords_eq
      (haccepted.isParsed hp) (haccepted.isParsed hq) hprole hqrole heq))
  have hselectors : ∀ p ∈ compiled.pages, ∀ q ∈ compiled.pages, p ≠ q →
      (p.selector = q.selector ↔ p.role ≠ .notFound ∧ q.role ≠ .notFound ∧
        p.nameWords.map Text.lower = q.nameWords.map Text.lower) := by
    intro p hp q hq hne
    rw [Page.selector_eq_iff (haccepted.isParsed hp) (haccepted.isParsed hq), or_iff_right]
    -- two pages for unknown addresses would have one class name
    rintro ⟨hprole, hqrole⟩
    refine hne (haccepted.eq_of_identifier_eq hp hq ?_)
    rw [((haccepted.isParsed hp).of_notFound hprole).1,
      ((haccepted.isParsed hq).of_notFound hqrole).1]
  refine ⟨hselectors, hwords, fun hlower => ?_⟩
  refine List.Nodup.map_on (fun p hp q hq heq => ?_) (List.Nodup.of_map _ haccepted.distinct)
  by_contra hne
  obtain ⟨hprole, hqrole, hsame⟩ := (hselectors p hp q hq hne).1 heq
  rw [Page.map_lower_nameWords (hlower p hp), Page.map_lower_nameWords (hlower q hq)] at hsame
  exact hwords p hp q hq hne hprole hqrole hsame

/-- Two directories whose names differ in the case of letters are both accepted. -/
theorem exists_compile_shared :
    ∃ compiled, compile Script.classReader ⟨["foo/index.html", "FOO/index.html"], [], []⟩ =
        .ok compiled ∧
      compiled.pages.map (·.selector) = ["app-foo-route-index", "app-foo-route-index"] := by
  refine map_eq_ok_iff.1 ?_
  decide +kernel

theorem namesElements_of_compile_shared :
    ∃ compiled, compile Script.classReader ⟨["foo/index.html", "FOO/index.html"], [], []⟩ =
        .ok compiled ∧
      Page.NamesElements compiled.pages := by
  obtain ⟨compiled, h, -⟩ := exists_compile_shared
  exact ⟨compiled, h, namesElements_of_compile h⟩

/-- The components of the two directories are accepted with one element name. -/
theorem selectors_not_nodup :
    ∃ compiled, compile Script.classReader ⟨["foo/index.html", "FOO/index.html"], [], []⟩ =
        .ok compiled ∧
      ¬(compiled.pages.map (·.selector)).Nodup := by
  obtain ⟨compiled, h, hselectors⟩ := exists_compile_shared
  refine ⟨compiled, h, ?_⟩
  rw [hselectors]
  decide

end CompileInput

end PageRoutes
