import PageRoutes.Proofs.WrittenComponents

/-!
# Where templates lie

The path of a template is the path of its component with every `.component.ts` in it replaced, so
the directory is rewritten along with the name of the file.  A template lies beside its component
exactly if the directory has no `.component.ts` in its spelling, and two of the generated paths are
the same exactly if two directories become one when they are rewritten.
-/

namespace PageRoutes

/-! ## Files of a directory -/

/-- The path of a file in a directory; the root is spelled by the empty text. -/
def Path.fileIn (directory file : String) : String :=
  if directory = "" then file else directory ++ ("/" ++ file)

/-- A path determines the directory of a file whose name is known. -/
theorem Path.fileIn_inj {directory other file : String} (hslash : '/' ∉ file.toList) :
    Path.fileIn directory file = Path.fileIn other file ↔ directory = other := by
  have hfile : ∀ front, front ++ ("/" ++ file) ≠ file := by
    intro front heq
    rw [← heq, Path.toList_append_slash] at hslash
    exact hslash (List.mem_append_right _ List.mem_cons_self)
  rw [Path.fileIn, Path.fileIn]
  split <;> split
  · exact iff_of_true rfl (by rw [‹directory = ""›, ‹other = ""›])
  · rename_i hdirectory hother
    rw [hdirectory]
    exact iff_of_false (Ne.symm (hfile other)) (Ne.symm hother)
  · rename_i hdirectory hother
    rw [hother]
    exact iff_of_false (hfile directory) hdirectory
  · rw [← String.toList_inj, String.toList_append, String.toList_append (s := other),
      List.append_left_inj, String.toList_inj]

namespace Page

variable {page p q : Page}

/-- The directory of a page as the path of its template has it. -/
def templateDirectory (page : Page) : String :=
  Text.replaceAll ".component.ts" ".component.html" page.directory

theorem templateDirectory_eq_iff :
    page.templateDirectory = page.directory ↔
      ¬".component.ts".toList <:+: page.directory.toList :=
  Text.replaceAll_eq_self_iff (by decide) (by decide)

theorem componentPath_eq_fileIn (hrole : page.role ≠ .notFound) :
    page.componentPath = Path.fileIn page.directory "index.component.ts" := by
  rw [componentPath, if_neg hrole, Path.fileIn]
  rfl

/-- The template lies in the directory in which everything is replaced, too. -/
theorem templatePath_eq_fileIn (hrole : page.role ≠ .notFound) :
    page.templatePath = Path.fileIn page.templateDirectory "index.component.html" := by
  have hname : Text.replaceAll ".component.ts" ".component.html" "index.component.ts" =
      "index.component.html" := by
    decide
  have hempty : page.templateDirectory = "" ↔ page.directory = "" :=
    Text.replaceAll_eq_empty_iff (by decide) (by decide)
  rw [templatePath, componentPath_eq_fileIn hrole, Path.fileIn, Path.fileIn]
  split
  · rw [if_pos (hempty.2 ‹_›), hname]
  · rw [if_neg (hempty.not.2 ‹_›), Text.replaceAll_append_slash (by decide) (by decide), hname]
    rfl

/-- A template lies beside its component exactly if nothing is replaced in the directory. -/
theorem templatePath_eq_iff (hrole : page.role ≠ .notFound) :
    page.templatePath = Path.fileIn page.directory "index.component.html" ↔
      ¬".component.ts".toList <:+: page.directory.toList := by
  rw [templatePath_eq_fileIn hrole, Path.fileIn_inj (by decide), templateDirectory_eq_iff]

theorem componentPath_inj (hp : p.role ≠ .notFound) (hq : q.role ≠ .notFound) :
    p.componentPath = q.componentPath ↔ p.directory = q.directory := by
  rw [componentPath_eq_fileIn hp, componentPath_eq_fileIn hq, Path.fileIn_inj (by decide)]

theorem templatePath_inj (hp : p.role ≠ .notFound) (hq : q.role ≠ .notFound) :
    p.templatePath = q.templatePath ↔ p.templateDirectory = q.templateDirectory := by
  rw [templatePath_eq_fileIn hp, templatePath_eq_fileIn hq, Path.fileIn_inj (by decide)]

/-- Components and templates have different names. -/
theorem componentPath_ne_templatePath (hp : p.role ≠ .notFound) (hq : q.role ≠ .notFound) :
    p.componentPath ≠ q.templatePath := by
  intro heq
  have hlast := p.getLast?_pieces_componentPath hp
  rw [heq, q.getLast?_pieces_templatePath hq] at hlast
  exact absurd hlast (by decide)

/-- The routing module has the name of no component and of no template. -/
theorem moduleFile_ne_paths (hrole : page.role ≠ .notFound) :
    page.componentPath ≠ Output.moduleFile ∧ page.templatePath ≠ Output.moduleFile := by
  have hmodule : (Location.pieces Output.moduleFile).getLast? = some Output.moduleFile := by
    rw [Location.pieces_eq_singleton (by decide)]
    rfl
  constructor <;> intro heq <;> rw [← heq] at hmodule
  · rw [page.getLast?_pieces_componentPath hrole, heq] at hmodule
    exact absurd hmodule (by decide)
  · rw [page.getLast?_pieces_templatePath hrole, heq] at hmodule
    exact absurd hmodule (by decide)

end Page

/-! ## Generated paths -/

namespace Output

variable {classesOf : ClassReader} {input : CompileInput} {compiled : CompiledRoutes}
  {registry : GuardRegistry} {site : Site} {pages : List Page}

/-- The paths of all files that are generated, in the order in which they are written. -/
def generatedPaths (pages : List Page) : List String :=
  moduleFile :: (writtenPages pages).flatMap fun page => [page.componentPath, page.templatePath]

/-- The files that are written for a compilation are those with the generated paths. -/
theorem map_target_actions (compiled : CompiledRoutes) (pagesDirectory outDirectory : String) :
    (actions compiled pagesDirectory outDirectory).map (·.target) =
      (generatedPaths compiled.pages).map (Location.join outDirectory) := by
  rw [actions, generatedPaths, writtenPages, List.cons_append, List.map_cons, List.map_cons,
    List.map_append, List.flatMap_append, List.map_append, List.map_flatMap, List.map_flatMap]
  congr 2
  split <;> rfl

/-- No two of the generated paths are the same exactly if no two of the templates lie in one
directory. -/
theorem nodup_generatedPaths_iff (hrole : ∀ page ∈ writtenPages pages, page.role ≠ .notFound)
    (hdirectories : ((writtenPages pages).map (·.directory)).Nodup) :
    (generatedPaths pages).Nodup ↔ ((writtenPages pages).map (·.templateDirectory)).Nodup := by
  have hnew : moduleFile ∉ (writtenPages pages).flatMap
      fun page => [page.componentPath, page.templatePath] := by
    intro hmem
    obtain ⟨page, hpage, hpath⟩ := List.mem_flatMap.1 hmem
    obtain ⟨hcomponent, htemplate⟩ := Page.moduleFile_ne_paths (hrole page hpage)
    rcases List.mem_pair.1 hpath with heq | heq
    · exact hcomponent heq.symm
    · exact htemplate heq.symm
  rw [generatedPaths, List.nodup_cons, and_iff_right hnew, List.nodup_flatMap]
  rw [List.Nodup, List.pairwise_map] at hdirectories ⊢
  constructor
  · rintro ⟨-, hpairs⟩
    refine hpairs.imp_of_mem fun {p q} hp hq hdisjoint heq => ?_
    rw [← Page.templatePath_inj (hrole p hp) (hrole q hq)] at heq
    exact hdisjoint (List.mem_cons_of_mem _ (List.mem_singleton_self _))
      (List.mem_pair.2 (Or.inr heq))
  · intro htemplates
    refine ⟨fun page hpage => ?_, ?_⟩
    · exact List.pairwise_pair.2 (Page.componentPath_ne_templatePath (hrole page hpage)
        (hrole page hpage))
    · refine (hdirectories.and htemplates).imp_of_mem fun {p q} hp hq hpq path hpath hother => ?_
      have hprole := hrole p hp
      have hqrole := hrole q hq
      rcases List.mem_pair.1 hpath with rfl | rfl <;> rcases List.mem_pair.1 hother with heq | heq
      · exact hpq.1 ((Page.componentPath_inj hprole hqrole).1 heq)
      · exact Page.componentPath_ne_templatePath hprole hqrole heq
      · exact Page.componentPath_ne_templatePath hqrole hprole heq.symm
      · exact hpq.2 ((Page.templatePath_inj hprole hqrole).1 heq)

/-- No two components are written into one directory. -/
theorem nodup_directories_writtenPages (h : compiled.Accepted classesOf input registry site)
    (hup : ∀ path ∈ input.pagePaths, ".." ∉ Path.parts path) :
    ((writtenPages compiled.pages).map (·.directory)).Nodup := by
  have hsegments := nodup_segments_writtenPages h hup
  refine List.Nodup.map_on (fun p hp q hq heq => ?_) (List.Nodup.of_map _ hsegments)
  have hnames : ∀ page ∈ writtenPages compiled.pages,
      page.directory = Segment.directory page.segments ∧ ∀ s ∈ page.segments, s.IsRead := by
    intro page hpage
    have hpage := hasNames_of_mem_writtenPages h hup hpage
    obtain ⟨source, index, heq⟩ := hpage.ofSegments
    refine ⟨?_, hpage.isRead⟩
    rw [heq]
    rfl
  refine List.inj_on_of_nodup_map hsegments hp hq ?_
  refine Segment.directory_injective (hnames p hp).2 (hnames q hq).2 ?_
  rw [← (hnames p hp).1, heq, (hnames q hq).1]

/-- Where the templates of a compilation lie, and when two of its generated files collide. -/
structure PlacesTemplates (compiled : CompiledRoutes) : Prop where
  /-- The generated paths are those of the files that are written. -/
  written : ∀ pagesDirectory outDirectory,
    (actions compiled pagesDirectory outDirectory).map (·.target) =
      (generatedPaths compiled.pages).map (Location.join outDirectory)
  /-- A template has its own name and lies in the rewritten directory of its page. -/
  template : ∀ page ∈ compiled.pages, page.role ≠ .notFound →
    page.templatePath = Path.fileIn page.templateDirectory "index.component.html"
  /-- A template lies beside its component exactly if there is nothing to rewrite. -/
  beside : ∀ page ∈ compiled.pages, page.role ≠ .notFound →
    page.componentPath = Path.fileIn page.directory "index.component.ts" ∧
      (page.templatePath = Path.fileIn page.directory "index.component.html" ↔
        ¬".component.ts".toList <:+: page.directory.toList)
  /-- No two generated files have one path exactly if no two rewritten directories are the same. -/
  nodup : (generatedPaths compiled.pages).Nodup ↔
    ((writtenPages compiled.pages).map (·.templateDirectory)).Nodup
  /-- So no two have one path if every template lies beside its component. -/
  nodup_of_beside : (∀ page ∈ compiled.pages, page.role ≠ .notFound →
    page.templatePath = Path.fileIn page.directory "index.component.html") →
      (generatedPaths compiled.pages).Nodup

/-- In every compilation that ends well, templates lie beside their components, and generated files
do not collide, but for directories with `.component.ts` in their spelling. -/
theorem placesTemplates_of_compile (hcompiled : input.compile classesOf = .ok compiled)
    (hup : ∀ path ∈ input.pagePaths, ".." ∉ Path.parts path) : PlacesTemplates compiled := by
  obtain ⟨registry, site, h⟩ := CompileInput.compile_eq_ok_iff.1 hcompiled
  have hdirectories := nodup_directories_writtenPages h hup
  have hnodup := nodup_generatedPaths_iff
    (fun page hpage => (hasNames_of_mem_writtenPages h hup hpage).role_ne) hdirectories
  refine ⟨map_target_actions compiled, fun _ _ => Page.templatePath_eq_fileIn,
    fun _ _ hrole => ⟨Page.componentPath_eq_fileIn hrole, Page.templatePath_eq_iff hrole⟩,
    hnodup, fun hbeside => hnodup.2 ?_⟩
  -- the rewritten directories are the directories themselves
  have hsame : ∀ page ∈ writtenPages compiled.pages, page.templateDirectory = page.directory := by
    intro page hpage
    rcases List.mem_append.1 hpage with hown | hroot
    · obtain ⟨hmem, hrole⟩ := List.mem_filter.1 hown
      have hrole : page.role ≠ .notFound := by simpa using hrole
      exact Page.templateDirectory_eq_iff.2 ((Page.templatePath_eq_iff hrole).1
        (hbeside page hmem hrole))
    · split at hroot
      · cases hroot
      · rw [List.mem_singleton.1 hroot]
        decide
  rwa [List.map_congr_left hsame]

/-- Two directories that become one when they are rewritten are both accepted. -/
theorem exists_compile_rewritten :
    ∃ compiled, CompileInput.compile Script.classReader
        ⟨["a.component.html/index.html", "a.component.ts/index.html"], [], []⟩ = .ok compiled ∧
      compiled.pages =
        [⟨"a.component.html/index.html", "a.component.html", [.literal "a.component.html"],
            "AComponentHtmlRouteIndexComponent", "app-a-component-html-route-index", .route, 0⟩,
          ⟨"a.component.ts/index.html", "a.component.ts", [.literal "a.component.ts"],
            "AComponentTsRouteIndexComponent", "app-a-component-ts-route-index", .route, 1⟩] := by
  refine map_eq_ok_iff.1 ?_
  decide +kernel

/-- The template of the second directory lies beside the component of the first. -/
theorem placesTemplates_of_compile_rewritten :
    ∃ compiled, CompileInput.compile Script.classReader
        ⟨["a.component.html/index.html", "a.component.ts/index.html"], [], []⟩ = .ok compiled ∧
      (∀ path ∈ ["a.component.html/index.html", "a.component.ts/index.html"],
        ".." ∉ Path.parts path) ∧
      PlacesTemplates compiled := by
  obtain ⟨compiled, h, -⟩ := exists_compile_rewritten
  have hup : ∀ path ∈ ["a.component.html/index.html", "a.component.ts/index.html"],
      ".." ∉ Path.parts path := by
    decide
  exact ⟨compiled, h, hup, placesTemplates_of_compile h hup⟩

/-- A page is accepted whose template does not lie beside its component, together with a page whose
template has the same path. -/
theorem templatePath_ne_beside_component :
    ∃ compiled, CompileInput.compile Script.classReader
        ⟨["a.component.html/index.html", "a.component.ts/index.html"], [], []⟩ = .ok compiled ∧
      (∀ path ∈ ["a.component.html/index.html", "a.component.ts/index.html"],
        ".." ∉ Path.parts path) ∧
      (∃ page ∈ compiled.pages, page.role = .route ∧
        page.templatePath ≠ Path.fileIn page.directory "index.component.html") ∧
      ¬(generatedPaths compiled.pages).Nodup := by
  obtain ⟨compiled, h, hpages⟩ := exists_compile_rewritten
  refine ⟨compiled, h, by decide, ?_, ?_⟩
  · rw [hpages]
    decide
  · rw [hpages]
    decide

end Output

end PageRoutes
