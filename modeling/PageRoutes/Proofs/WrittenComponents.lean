import PageRoutes.Proofs.ActionRuns
import PageRoutes.Proofs.ImportLists
import PageRoutes.Proofs.RepeatedOutput

/-!
# The routing module finds its components

The routing module imports components by paths that are made from the pages and the page root; the
output writes the components to locations that are made from the same pages, and from a page of its
own for a root that has none.  The two agree: each component that the routing module imports, but
for that of unknown addresses, is written where it is imported from, and nothing that is written in
the same run takes its place.
-/

namespace PageRoutes

namespace Page

/-- A page whose component lies in its directory, where every segment is the name of a directory
inside the one before. -/
structure HasNames (page : Page) : Prop where
  ofSegments : ∃ source index, page = .ofSegments source page.segments index
  isRead : ∀ s ∈ page.segments, s.IsRead
  raw_ne : ∀ s ∈ page.segments, s.raw ≠ ".."

variable {page other : Page}

theorem HasNames.role_ne (h : page.HasNames) : page.role ≠ .notFound := by
  obtain ⟨source, index, hpage⟩ := h.ofSegments
  rw [hpage, Page.ofSegments]
  dsimp only
  split <;> decide

/-- The component of a page lies in the directory of the page. -/
theorem HasNames.pieces_componentPath (h : page.HasNames) :
    Location.pieces page.componentPath =
      page.segments.map Segment.raw ++ ["index.component.ts"] := by
  obtain ⟨source, index, hpage⟩ := h.ofSegments
  have hname : Location.pieces "index.component.ts" = ["index.component.ts"] :=
    Location.pieces_eq_singleton (by decide)
  have hdirectory : page.directory = Segment.directory page.segments := by
    rw [hpage]
    rfl
  rw [componentPath, if_neg h.role_ne, hdirectory]
  by_cases hnil : page.segments = []
  · rw [hnil, show Segment.directory [] = "" from rfl, if_pos rfl, hname]
    rfl
  · have hslash : "/index.component.ts" = "/" ++ "index.component.ts" := rfl
    have hparts : Location.pieces (Segment.directory page.segments) =
        page.segments.map Segment.raw := by
      rw [Location.pieces, Segment.directory_eq_ofParts, Path.ofParts,
        Path.splitOn_intercalate_texts (by simpa using hnil), List.map_map]
      · exact List.map_id'' (fun _ => String.ofList_toList) _
      · exact fun raw hraw => (Segment.isPart_of_mem_raws h.isRead hraw).slash_not_mem
    rw [if_neg (Segment.directory_ne_empty h.isRead hnil), hslash, Location.pieces_append_slash,
      hparts, hname]

theorem HasNames.isName (h : page.HasNames) :
    ∀ piece ∈ Location.pieces page.componentPath, Disk.IsName piece := by
  rw [h.pieces_componentPath]
  intro piece hpiece
  rcases List.mem_append.1 hpiece with hraw | hfile
  · have hpart := Segment.isPart_of_mem_raws h.isRead hraw
    obtain ⟨s, hs, rfl⟩ := List.mem_map.1 hraw
    exact ⟨hpart.ne_empty, hpart.ne_dot, h.raw_ne s hs⟩
  · rw [List.mem_singleton.1 hfile]
    decide

/-- Components in one place are components of one directory. -/
theorem HasNames.segments_eq (h : page.HasNames) (h' : other.HasNames)
    (heq : Location.pieces page.componentPath = Location.pieces other.componentPath) :
    page.segments = other.segments := by
  rw [h.pieces_componentPath, h'.pieces_componentPath] at heq
  refine Segment.directory_injective h.isRead h'.isRead ?_
  rw [Segment.directory_eq_ofParts, Segment.directory_eq_ofParts, List.append_cancel_right heq]

end Page

namespace CompiledRoutes.Accepted

variable {classesOf : ClassReader} {input : CompileInput} {compiled : CompiledRoutes}
  {registry : GuardRegistry} {site : Site} {page : Page}

theorem hasNames (h : compiled.Accepted classesOf input registry site)
    (hup : ∀ path ∈ input.pagePaths, ".." ∉ Path.parts path) (hpage : page ∈ compiled.pages)
    (hrole : page.role ≠ .notFound) : page.HasNames := by
  obtain ⟨path, hpath, hparse⟩ := CompileInput.exists_path_of_parsePages h.parsed hpage
  rcases Page.parse_eq_ok hparse with hnotFound | ⟨segments, heq, hraws, hread⟩
  · rw [hnotFound] at hrole
    exact absurd rfl hrole
  · have hsegments : page.segments = segments := by rw [heq]; rfl
    subst hsegments
    refine ⟨⟨_, _, heq⟩, hread, fun s hs hdots => hup path hpath ?_⟩
    rw [← hdots]
    exact List.dropLast_subset _ (hraws ▸ List.mem_map_of_mem hs)

end CompiledRoutes.Accepted

/-! ## Written files -/

namespace OutputAction

open Disk

variable {disk : Disk} {outDirectory : String} {page : Page} {action write : OutputAction}
  {todo : List OutputAction}

/-- The file to which an action leads, unless it is called like a template. -/
def sourceFile? (disk : Disk) (action : OutputAction) : Option (List String) :=
  if (action.file disk).getLast? = some "index.component.html" then none
  else some (action.file disk)

theorem sourceFile?_eq_some {name : String} (hname : IsName name ∧ name ≠ "index.component.html")
    (hlast : (Location.pieces action.target).getLast? = some name) :
    action.sourceFile? disk = some (action.file disk) := by
  rw [sourceFile?, if_neg]
  rw [file, getLast?_spelled hname.1 hlast, Option.some.injEq]
  exact hname.2

theorem sourceFile?_of_template (hpage : page.HasNames)
    (htarget : action.target = Location.join outDirectory page.templatePath) :
    action.sourceFile? disk = none := by
  rw [sourceFile?, if_pos]
  refine getLast?_spelled (by decide) ?_
  rw [htarget, Location.getLast?_pieces_join, Page.getLast?_pieces_templatePath hpage.role_ne]

theorem sourceFile?_of_component (hpage : page.HasNames)
    (htarget : action.target = Location.join outDirectory page.componentPath) :
    action.sourceFile? disk =
      some (disk.spelled (Location.join outDirectory page.componentPath)) := by
  have hlast : (Location.pieces action.target).getLast? = some "index.component.ts" := by
    rw [htarget, Location.getLast?_pieces_join, Page.getLast?_pieces_componentPath hpage.role_ne]
  rw [sourceFile?_eq_some (by decide) hlast, file, htarget]

/-- If no two actions lead to one file, templates apart, no other action leads to the file of an
action that writes no template. -/
theorem filter_file_eq_singleton (hnodup : (todo.filterMap (sourceFile? disk)).Nodup)
    (hwrite : write ∈ todo) (hsource : write.sourceFile? disk = some (write.file disk)) :
    todo.filter (fun action => action.file disk = write.file disk) = [write] := by
  rw [← filter_eq_singleton_of_nodup_keys hnodup hwrite hsource]
  refine List.filter_congr fun action _ => decide_eq_decide.2 ?_
  have hlast : (write.file disk).getLast? ≠ some "index.component.html" := by
    intro hlast
    rw [sourceFile?, if_pos hlast] at hsource
    cases hsource
  unfold sourceFile?
  constructor
  · intro heq
    rw [heq, if_neg hlast]
  · split
    · intro hnone
      cases hnone
    · exact Option.some.inj

/-- In such a run every writing of something else than a template is the only action that leads to
its file. -/
theorem writesOnce_of_nodup {after : Disk} {location text name : String}
    (hperform : performAll disk todo = (after, none))
    (hnodup : (todo.filterMap (sourceFile? disk)).Nodup)
    (hwrite : .write location text ∈ todo) (hname : IsName name ∧ name ≠ "index.component.html")
    (hlast : (Location.pieces location).getLast? = some name) :
    WritesOnce disk todo after location text := by
  have hsource : (OutputAction.write location text).sourceFile? disk =
      some ((OutputAction.write location text).file disk) :=
    sourceFile?_eq_some hname hlast
  have honly := filter_file_eq_singleton hnodup hwrite hsource
  exact writesOnce hperform honly

end OutputAction

namespace Output

open Disk OutputAction

variable {classesOf : ClassReader} {input : CompileInput} {compiled : CompiledRoutes}
  {registry : GuardRegistry} {site : Site} {pagesDirectory outDirectory : String} {disk : Disk}
  {page : Page}

theorem isName_moduleFile : IsName moduleFile ∧ moduleFile ≠ "index.component.html" := by
  decide

/-- The pages for which components are written. -/
def writtenPages (pages : List Page) : List Page :=
  pages.filter (·.role != .notFound) ++
    if pages.any (·.role == .rootIndex) then [] else [defaultRoot]

theorem hasNames_defaultRoot : defaultRoot.HasNames :=
  ⟨⟨"index.html", 0, rfl⟩, fun _ hs => absurd hs List.not_mem_nil,
    fun _ hs => absurd hs List.not_mem_nil⟩

theorem hasNames_of_mem_writtenPages (h : compiled.Accepted classesOf input registry site)
    (hup : ∀ path ∈ input.pagePaths, ".." ∉ Path.parts path)
    (hpage : page ∈ writtenPages compiled.pages) : page.HasNames := by
  rw [writtenPages, List.mem_append] at hpage
  rcases hpage with hown | hroot
  · obtain ⟨hmem, hrole⟩ := List.mem_filter.1 hown
    exact h.hasNames hup hmem (by simpa using hrole)
  · split at hroot
    · cases hroot
    · rw [List.mem_singleton.1 hroot]
      exact hasNames_defaultRoot

/-- No two components are written for one directory. -/
theorem nodup_segments_writtenPages (h : compiled.Accepted classesOf input registry site)
    (hup : ∀ path ∈ input.pagePaths, ".." ∉ Path.parts path) :
    ((writtenPages compiled.pages).map (·.segments)).Nodup := by
  have hnames : ∀ page ∈ compiled.pages.filter (·.role != .notFound), page.HasNames :=
    fun page hpage => hasNames_of_mem_writtenPages h hup (List.mem_append_left _ hpage)
  -- components of one directory would have one name
  have hown : ((compiled.pages.filter (·.role != .notFound)).map (·.segments)).Nodup := by
    refine List.Nodup.map_on (fun p hp q hq heq => ?_) ((List.Nodup.of_map _ h.distinct).filter _)
    refine h.eq_of_identifier_eq (List.mem_filter.1 hp).1 (List.mem_filter.1 hq).1 ?_
    obtain ⟨source, index, hpage⟩ := (hnames p hp).ofSegments
    obtain ⟨source', index', hpage'⟩ := (hnames q hq).ofSegments
    rw [hpage, hpage', heq]
    rfl
  rw [writtenPages, List.map_append]
  split
  · rwa [List.map_nil, List.append_nil]
  · rename_i hnone
    refine List.nodup_append'.2 ⟨hown, List.nodup_singleton _, ?_⟩
    intro segments hmem hroot
    rw [List.map_singleton, List.mem_singleton] at hroot
    obtain ⟨page, hpage, rfl⟩ := List.mem_map.1 hmem
    obtain ⟨source, index, heq⟩ := (hnames page hpage).ofSegments
    refine hnone (List.any_eq_true.2 ⟨page, (List.mem_filter.1 hpage).1, ?_⟩)
    rw [heq, hroot]
    rfl

theorem filterMap_sourceFile?_pageActions (hpage : page.HasNames) :
    (pageActions pagesDirectory outDirectory page).filterMap (sourceFile? disk) =
      [disk.spelled (Location.join outDirectory page.componentPath)] := by
  have hcomponent : (OutputAction.write (Location.join outDirectory page.componentPath)
      page.componentSource).sourceFile? disk = some _ := sourceFile?_of_component hpage rfl
  have htemplate : (OutputAction.copy (Location.join pagesDirectory page.sourcePath)
      (Location.join outDirectory page.templatePath)).sourceFile? disk = none :=
    sourceFile?_of_template hpage (by rw [target])
  rw [pageActions, List.filterMap_cons_some hcomponent, List.filterMap_cons_none htemplate,
    List.filterMap_nil]

theorem filterMap_sourceFile?_rootActions :
    (rootActions outDirectory).filterMap (sourceFile? disk) =
      [disk.spelled (Location.join outDirectory defaultRoot.componentPath)] := by
  have hcomponent : (OutputAction.write (Location.join outDirectory defaultRoot.componentPath)
      defaultRoot.componentSource).sourceFile? disk = some _ :=
    sourceFile?_of_component hasNames_defaultRoot rfl
  have htemplate : (OutputAction.write (Location.join outDirectory defaultRoot.templatePath)
      rootOutlet).sourceFile? disk = none :=
    sourceFile?_of_template hasNames_defaultRoot rfl
  rw [rootActions, List.filterMap_cons_some hcomponent, List.filterMap_cons_none htemplate,
    List.filterMap_nil]

/-- The files that are written, templates apart, are the routing module and the components. -/
theorem filterMap_sourceFile?_actions
    (hnames : ∀ page ∈ writtenPages compiled.pages, page.HasNames) :
    (actions compiled pagesDirectory outDirectory).filterMap (sourceFile? disk) =
      disk.spelled (Location.join outDirectory moduleFile) ::
        (writtenPages compiled.pages).map fun page =>
          disk.spelled (Location.join outDirectory page.componentPath) := by
  have hmodule : (OutputAction.write (Location.join outDirectory moduleFile)
      compiled.routingModule).sourceFile? disk =
        some (disk.spelled (Location.join outDirectory moduleFile)) :=
    sourceFile?_eq_some isName_moduleFile getLast?_pieces_moduleFile
  have hpages : ((compiled.pages.filter (·.role != .notFound)).flatMap
      (pageActions pagesDirectory outDirectory)).filterMap (sourceFile? disk) =
        (compiled.pages.filter (·.role != .notFound)).map fun page =>
          disk.spelled (Location.join outDirectory page.componentPath) := by
    rw [List.filterMap_flatMap, List.map_eq_flatMap]
    exact List.flatMap_congr fun page hpage =>
      filterMap_sourceFile?_pageActions (hnames page (List.mem_append_left _ hpage))
  rw [actions, List.cons_append, List.filterMap_cons_some hmodule, List.filterMap_append, hpages,
    writtenPages, List.map_append]
  split
  · rfl
  · rw [filterMap_sourceFile?_rootActions]
    rfl

/-- No two actions lead to one file, templates apart. -/
theorem nodup_sourceFiles (h : compiled.Accepted classesOf input registry site)
    (hup : ∀ path ∈ input.pagePaths, ".." ∉ Path.parts path) :
    ((actions compiled pagesDirectory outDirectory).filterMap (sourceFile? disk)).Nodup := by
  have hnames : ∀ page ∈ writtenPages compiled.pages, page.HasNames :=
    fun _ => hasNames_of_mem_writtenPages h hup
  have hsegments := nodup_segments_writtenPages h hup
  obtain ⟨place, hplace⟩ := exists_spelled_join disk outDirectory
  have hmodule : Location.pieces moduleFile = [moduleFile] :=
    Location.pieces_eq_singleton (by decide)
  rw [filterMap_sourceFile?_actions hnames, hplace moduleFile (by rw [hmodule]; decide), hmodule]
  refine List.nodup_cons.2 ⟨fun hmem => ?_, ?_⟩
  · obtain ⟨page, hpage, heq⟩ := List.mem_map.1 hmem
    rw [hplace _ (hnames page hpage).isName, (hnames page hpage).pieces_componentPath] at heq
    have hlast := congrArg List.getLast? (List.append_cancel_left heq)
    rw [List.getLast?_concat] at hlast
    exact absurd hlast (by decide)
  · refine List.Nodup.map_on (fun p hp q hq heq => ?_) (List.Nodup.of_map _ hsegments)
    rw [hplace _ (hnames p hp).isName, hplace _ (hnames q hq).isName] at heq
    exact List.inj_on_of_nodup_map hsegments hp hq
      ((hnames p hp).segments_eq (hnames q hq) (List.append_cancel_left heq))

theorem write_component_mem_actions (hpage : page ∈ writtenPages compiled.pages) :
    .write (Location.join outDirectory page.componentPath) page.componentSource ∈
      actions compiled pagesDirectory outDirectory := by
  rw [actions, List.cons_append]
  refine List.mem_cons_of_mem _ (List.mem_append.2 ?_)
  rcases List.mem_append.1 hpage with hown | hroot
  · exact Or.inl (List.mem_flatMap.2 ⟨page, hown, List.mem_cons_self⟩)
  · refine Or.inr ?_
    split at hroot
    · cases hroot
    · rw [if_neg ‹_›, List.mem_singleton.1 hroot]
      exact List.mem_cons_self

/-! ## Imported components -/

/-- Among the pages for which components are written there is one for the root. -/
theorem exists_root_mem_writtenPages (h : compiled.Accepted classesOf input registry site)
    (hup : ∀ path ∈ input.pagePaths, ".." ∉ Path.parts path) :
    ∃ page ∈ writtenPages compiled.pages, page.identifier = rootIndexIdentifier ∧
      page.componentPath = "index.component" ++ ".ts" := by
  obtain ⟨page, hpage, hnil⟩ : ∃ page ∈ writtenPages compiled.pages, page.segments = [] := by
    by_cases hroot : compiled.pages.any (·.role == .rootIndex) = true
    · obtain ⟨page, hpage, hrole⟩ := List.any_eq_true.1 hroot
      have hkept : page ∈ writtenPages compiled.pages := by
        refine List.mem_append_left _ (List.mem_filter.2 ⟨hpage, ?_⟩)
        rw [beq_iff_eq.1 hrole]
        rfl
      obtain ⟨source, index, heq⟩ := (hasNames_of_mem_writtenPages h hup hkept).ofSegments
      rw [heq, Page.ofSegments] at hrole
      refine ⟨page, hkept, ?_⟩
      simpa using hrole
    · refine ⟨defaultRoot, List.mem_append_right _ ?_, rfl⟩
      rw [if_neg hroot]
      exact List.mem_singleton_self _
  obtain ⟨source, index, heq⟩ := (hasNames_of_mem_writtenPages h hup hpage).ofSegments
  refine ⟨page, hpage, ?_⟩
  rw [heq, hnil]
  exact ⟨rfl, rfl⟩

/-- What the routing module imports as a component, other than that of unknown addresses, is the
component of a page for which one is written, and it is imported from where it is written. -/
theorem exists_page_of_mem_imports (h : compiled.Accepted classesOf input registry site)
    (hup : ∀ path ∈ input.pagePaths, ".." ∉ Path.parts path) {entry : ImportEntry}
    (hentry : entry ∈ compiled.emission.imports) (hkind : entry.kind = .component)
    (hother : entry.identifier ≠ notFoundIdentifier) :
    ∃ file, ∃ page ∈ writtenPages compiled.pages, entry.path = "./" ++ file ∧
      page.identifier = entry.identifier ∧ page.componentPath = file ++ ".ts" := by
  rw [h.imports_eq, List.mem_append] at hentry
  rcases hentry with hcomponent | hguard
  · obtain ⟨component, hmem, rfl⟩ := List.mem_map.1 hcomponent
    rcases List.mem_append.1 hmem with hroute | hspecial
    · obtain ⟨page, hpage, rfl⟩ := List.mem_map.1 hroute
      obtain ⟨hmem, hrole⟩ := List.mem_filter.1 hpage
      have hrole := of_decide_eq_true hrole
      refine ⟨page.directory ++ "/index.component", page, ?_, ?_, rfl, ?_⟩
      · refine List.mem_append_left _ (List.mem_filter.2 ⟨hmem, ?_⟩)
        rw [hrole]
        rfl
      · exact (h.isParsed hmem).importPath hrole
      · exact (h.isParsed hmem).componentPath hrole
    · rcases List.mem_append.1 hspecial with hroot | hfallback
      · obtain ⟨page, hpage, hidentifier, hpath⟩ := exists_root_mem_writtenPages h hup
        split at hroot
        · cases hroot
        · rw [List.mem_singleton.1 hroot]
          exact ⟨"index.component", page, hpage, by decide, hidentifier, hpath⟩
      · rw [List.mem_singleton.1 hfallback] at hother
        exact absurd rfl hother
  · obtain ⟨attached, -, rfl⟩ := List.mem_map.1 hguard
    cases hkind

/-- The routing module and every component that it imports, but for that of unknown addresses, are
among the written files, and each of these files is written once. -/
structure WritesImports (compiled : CompiledRoutes) (pagesDirectory outDirectory : String)
    (disk : Disk) (written : List String) (after : Disk) : Prop where
  routing : Location.join outDirectory "app-routing.module.ts" ∈ written ∧
    WritesOnce disk (actions compiled pagesDirectory outDirectory) after
      (Location.join outDirectory "app-routing.module.ts") compiled.routingModule
  component : ∀ entry ∈ compiled.emission.imports, entry.kind = .component →
    entry.identifier ≠ "NotFoundComponent" →
      ∃ file page, entry.path = "./" ++ file ∧
        (page ∈ compiled.pages ∨ page = defaultRoot) ∧ page.identifier = entry.identifier ∧
        Location.join outDirectory (file ++ ".ts") ∈ written ∧
        WritesOnce disk (actions compiled pagesDirectory outDirectory) after
          (Location.join outDirectory (file ++ ".ts")) page.componentSource ∧
        ∃ front, page.componentSource =
          front ++ ("export class " ++ entry.identifier ++ " \x7b \x7d\n")

/-- An output that ended well has written the routing module and every component that it imports
where they are imported from, and has not written anything else in their places. -/
theorem writesImports_of_compile (hcompiled : input.compile classesOf = .ok compiled)
    (hup : ∀ path ∈ input.pagePaths, ".." ∉ Path.parts path) {written : List String}
    {after : Disk}
    (hwrite : write compiled pagesDirectory outDirectory disk = (.ok written, after)) :
    WritesImports compiled pagesDirectory outDirectory disk written after := by
  obtain ⟨registry, site, h⟩ := CompileInput.compile_eq_ok_iff.1 hcompiled
  obtain ⟨hperform, rfl⟩ := write_eq_ok_iff.1 hwrite
  have hnodup := @nodup_sourceFiles _ _ _ _ _ pagesDirectory outDirectory disk h hup
  constructor
  · have hmem : .write (Location.join outDirectory moduleFile) compiled.routingModule ∈
        actions compiled pagesDirectory outDirectory := by
      rw [actions, List.cons_append]
      exact List.mem_cons_self
    exact ⟨List.mem_map_of_mem (f := target) hmem,
      writesOnce_of_nodup hperform hnodup hmem isName_moduleFile getLast?_pieces_moduleFile⟩
  · intro entry hentry hkind hother
    obtain ⟨file, page, hpage, hpath, hidentifier, hfile⟩ :=
      exists_page_of_mem_imports h hup hentry hkind hother
    have hmem : .write (Location.join outDirectory (file ++ ".ts")) page.componentSource ∈
        actions compiled pagesDirectory outDirectory := by
      rw [← hfile]
      exact write_component_mem_actions hpage
    have hlast : (Location.pieces (Location.join outDirectory (file ++ ".ts"))).getLast? =
        some "index.component.ts" := by
      rw [Location.getLast?_pieces_join, ← hfile, Page.getLast?_pieces_componentPath
        (hasNames_of_mem_writtenPages h hup hpage).role_ne]
    refine ⟨file, page, hpath, ?_, hidentifier, List.mem_map_of_mem (f := target) hmem,
      writesOnce_of_nodup hperform hnodup hmem (by decide) hlast, ?_⟩
    · rcases List.mem_append.1 hpage with hown | hroot
      · exact Or.inl (List.mem_filter.1 hown).1
      · refine Or.inr ?_
        split at hroot
        · cases hroot
        · exact List.mem_singleton.1 hroot
    · refine ⟨Emission.importText "Component" "@angular/core" ++ "\n\n"
        ++ "@Component(\x7b\n  selector: '" ++ page.selector ++ "',\n"
        ++ "  templateUrl: './index.component.html'\n\x7d)\n", ?_⟩
      rw [Page.componentSource, hidentifier]
      simp only [String.append_assoc]

/-- A page directory without a page for the root. -/
def aboutDisk : Disk where
  directories := [["site", "about"], ["site"]]
  files := [(["site", "about", "index.html"], ⟨#[104, 105]⟩)]
  workingDirectory := []

/-- A page is written into a directory that has to be made, and so is a component for the root. -/
theorem writesImports_of_compile_about :
    ∃ compiled after, CompileInput.compile (fun _ _ => .error "") ⟨["about/index.html"], [], []⟩ =
        .ok compiled ∧
      (∀ path ∈ ["about/index.html"], ".." ∉ Path.parts path) ∧
      write compiled "site" "app/" aboutDisk =
        (.ok ["app/app-routing.module.ts", "app/about/index.component.ts",
          "app/about/index.component.html", "app/index.component.ts",
          "app/index.component.html"], after) ∧
      WritesImports compiled "site" "app/" aboutDisk
        ["app/app-routing.module.ts", "app/about/index.component.ts",
          "app/about/index.component.html", "app/index.component.ts",
          "app/index.component.html"] after := by
  have hup : ∀ path ∈ ["about/index.html"], ".." ∉ Path.parts path := by decide
  have hwritten : (CompileInput.compile (fun _ _ => .error "") ⟨["about/index.html"], [], []⟩).map
      (fun compiled => (write compiled "site" "app/" aboutDisk).1) =
        .ok (.ok ["app/app-routing.module.ts", "app/about/index.component.ts",
          "app/about/index.component.html", "app/index.component.ts",
          "app/index.component.html"]) := by
    decide +kernel
  obtain ⟨compiled, hcompiled, hok⟩ := map_eq_ok_iff.1 hwritten
  rcases hwrite : write compiled "site" "app/" aboutDisk with ⟨result, after⟩
  rw [hwrite] at hok
  obtain rfl : result = _ := hok
  exact ⟨compiled, after, hcompiled, hup, hwrite, writesImports_of_compile hcompiled hup hwrite⟩

end Output

end PageRoutes
