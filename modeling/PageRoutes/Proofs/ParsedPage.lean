import PageRoutes.Page
import PageRoutes.Proofs.Computations
import PageRoutes.Proofs.Replacement

/-!
# What a parsed page looks like

The segments of a parsed page are those that the directory names of its path stand for.  A segment
that was read gives its name back, so the spelling of a directory determines its segments.  A page
with a route is imported by its directory and the name of the component file.
-/

namespace PageRoutes

namespace Segment

/-- A segment that a directory name stands for. -/
structure IsRead (s : Segment) : Prop where
  ofRaw?_raw : ofRaw? s.raw = some s
  isPart_raw : Path.IsPart s.raw

/-- The segment that a directory name stands for gives the name back. -/
theorem raw_of_ofRaw? {raw : String} {s : Segment} (h : ofRaw? raw = some s) : s.raw = raw := by
  unfold ofRaw? at h
  split at h <;> simp only [reduceCtorEq, Option.some.injEq] at h <;> subst h
  · rename_i name _ hchars
    rw [← String.toList_inj, hchars]
    simp [Segment.raw]
  · rename_i name _ hchars
    rw [← String.toList_inj, hchars]
    simp [Segment.raw]
  · rfl

/-- The segments that names stand for spell these names. -/
theorem map_raw_of_forall₂ {raws : List String} {d : List Segment}
    (h : List.Forall₂ (fun raw s => ofRaw? raw = some s) raws d) : d.map raw = raws := by
  rw [← List.forall₂_eq_eq_eq, List.forall₂_map_left_iff]
  exact h.flip.imp fun s raw => raw_of_ofRaw?

/-- A directory is spelled by the names of its segments. -/
theorem directory_eq_ofParts (d : List Segment) : directory d = Path.ofParts (d.map raw) := rfl

theorem isPart_of_mem_raws {d : List Segment} (hd : ∀ s ∈ d, s.IsRead) {part : String}
    (hpart : part ∈ d.map raw) : Path.IsPart part := by
  obtain ⟨s, hs, rfl⟩ := List.mem_map.1 hpart
  exact (hd s hs).isPart_raw

/-- The segments that a directory spells; `none` if some part is a marker without a name. -/
def readDirectory? (directory : String) : Option (List Segment) :=
  (Path.parts directory).mapM ofRaw?

/-- Segments that were read are those that their directory spells. -/
theorem readDirectory?_directory {d : List Segment} (hd : ∀ s ∈ d, s.IsRead) :
    readDirectory? (directory d) = some d := by
  rw [readDirectory?, directory_eq_ofParts, Path.parts_ofParts fun _ => isPart_of_mem_raws hd]
  induction d with
  | nil => rfl
  | cons s rest ih =>
    rw [List.forall_mem_cons] at hd
    rw [List.map_cons, List.mapM_cons, hd.1.ofRaw?_raw, ih hd.2]
    rfl

/-- Segments that were read spell one directory only if they are the same. -/
theorem directory_injective {d e : List Segment} (hd : ∀ s ∈ d, s.IsRead)
    (he : ∀ s ∈ e, s.IsRead) (heq : directory d = directory e) : d = e := by
  have hread := readDirectory?_directory hd
  rw [heq, readDirectory?_directory he] at hread
  exact (Option.some.inj hread).symm

/-! ### Patterns -/

/-- What a segment contributes to a pattern is an element of its own: it is not empty and has no
separator in it. -/
theorem IsRead.fragment {s : Segment} (h : s.IsRead) :
    s.fragment ≠ "" ∧ '/' ∉ s.fragment.toList := by
  obtain ⟨hread, hpart⟩ := h
  cases s with
  | literal name => exact ⟨hpart.ne_empty, hpart.slash_not_mem⟩
  | parameter name =>
    have hslash := hpart.slash_not_mem
    simp only [raw, String.toList_append, List.mem_append, not_or] at hslash
    refine ⟨fun h => ?_, ?_⟩
    · simpa [Segment.fragment] using congrArg String.toList h
    · simpa [Segment.fragment] using hslash.2
  | nestedScope name =>
    have hslash := hpart.slash_not_mem
    simp only [raw, String.toList_append, List.mem_append, not_or] at hslash
    refine ⟨?_, hslash.2⟩
    -- a marker without a name is not read at all
    rintro rfl
    exact absurd hread (by decide)

/-- The elements of a pattern are those that its segments contribute. -/
theorem splitOn_pattern {d : List Segment} (hd : ∀ s ∈ d, s.IsRead) (hne : d ≠ []) :
    (pattern d).toList.splitOn '/' = d.map (·.fragment.toList) := by
  have hslash : ∀ text ∈ d.map Segment.fragment, '/' ∉ text.toList := by
    intro text htext
    obtain ⟨s, hs, rfl⟩ := List.mem_map.1 htext
    exact (hd s hs).fragment.2
  rw [pattern, Path.splitOn_intercalate_texts (by simpa using hne) hslash, List.map_map]
  rfl

theorem fragment_of_not_parameter {s : Segment} (h : s.isParameter = false) :
    s.fragment = s.name := by
  cases s with
  | parameter name => cases h
  | literal name => rfl
  | nestedScope name => rfl

/-- Only the root is spelled by the empty text. -/
theorem directory_ne_empty {d : List Segment} (hd : ∀ s ∈ d, s.IsRead) (hne : d ≠ []) :
    directory d ≠ "" :=
  fun heq => hne (directory_injective hd (fun _ hs => absurd hs List.not_mem_nil) heq)

end Segment

namespace Page

theorem classify_eq_ok_iff {raw source : String} {s : Segment} :
    Segment.classify raw source = .ok s ↔ Segment.ofRaw? raw = some s := by
  unfold Segment.classify
  split
  · rename_i found heq
    rw [heq, Except.ok.injEq, Option.some.injEq]
  · rename_i heq
    simp [heq]

/-- A page is read off a path with a file: it is the one for unknown addresses if the file has the
name kept for it and lies in no directory, and else it has a segment for each directory. -/
theorem parse_eq_ok_iff {source : String} {index : Nat} {page : Page} :
    parse source index = .ok page ↔ ∃ file, (Path.parts source).getLast? = some file ∧
      if (Path.parts source).length = 1 ∧ fileStem file = "not-found" then
        page = ofNotFound (Path.normalize source) index
      else ∃ segments,
        List.Forall₂ (fun raw s => Segment.ofRaw? raw = some s) (Path.parts source).dropLast
            segments ∧
          page = ofSegments (Path.normalize source) segments index := by
  unfold parse
  cases hlast : (Path.parts source).getLast? with
  | none => simp [hlast]
  | some file =>
    simp only [hlast, Option.some.injEq, exists_eq_left']
    split
    · exact ⟨fun h => (Except.ok.inj h).symm, fun h => h ▸ rfl⟩
    · simp only [bind_eq_ok_iff, mapM_eq_ok_iff, classify_eq_ok_iff]
      refine exists_congr fun segments => and_congr_right fun _ => ?_
      exact ⟨fun h => (Except.ok.inj h).symm, fun h => h ▸ rfl⟩

/-- A parsed page is the one for unknown addresses, or it has the segments that the directories on
the way to it stand for. -/
theorem parse_eq_ok {source : String} {index : Nat} {page : Page}
    (h : parse source index = .ok page) :
    page = ofNotFound (Path.normalize source) index ∨
      ∃ segments, page = ofSegments (Path.normalize source) segments index ∧
        segments.map Segment.raw = (Path.parts source).dropLast ∧ ∀ s ∈ segments, s.IsRead := by
  obtain ⟨file, -, hpage⟩ := parse_eq_ok_iff.1 h
  split at hpage
  · exact Or.inl hpage
  · obtain ⟨segments, hread, hsegments⟩ := hpage
    have hraws := Segment.map_raw_of_forall₂ hread
    -- so every segment is read off its own spelling
    rw [← hraws, List.forall₂_map_left_iff, List.forall₂_same] at hread
    refine Or.inr ⟨segments, hsegments, hraws, fun s hs => ⟨hread s hs, ?_⟩⟩
    have hraw : s.raw ∈ (Path.parts source).dropLast := hraws ▸ List.mem_map_of_mem hs
    exact Path.isPart_of_mem_parts (List.dropLast_subset _ hraw)

theorem sourcePath_of_parse {source : String} {index : Nat} {page : Page}
    (h : parse source index = .ok page) : page.sourcePath = Path.normalize source := by
  rcases parse_eq_ok h with hpage | ⟨segments, hpage, -, -⟩ <;> rw [hpage] <;> rfl

theorem discoveryIndex_of_parse {source : String} {index : Nat} {page : Page}
    (h : parse source index = .ok page) : page.discoveryIndex = index := by
  rcases parse_eq_ok h with hpage | ⟨segments, hpage, -, -⟩ <;> rw [hpage] <;> rfl

/-- A page that was read off the path of some file. -/
def IsParsed (page : Page) : Prop :=
  ∃ source, parse source page.discoveryIndex = .ok page

namespace IsParsed

variable {page : Page}

theorem isRead (h : page.IsParsed) : ∀ s ∈ page.segments, s.IsRead := by
  obtain ⟨source, hparse⟩ := h
  rcases parse_eq_ok hparse with hpage | ⟨segments, hpage, -, hread⟩
  · rw [hpage]
    exact fun s hs => absurd hs List.not_mem_nil
  · rw [hpage]
    exact hread

/-- A page with a route of its own lies below the root and is named after its segments. -/
theorem of_route (h : page.IsParsed) (hrole : page.role = .route) :
    page.segments ≠ [] ∧ page.directory = Segment.directory page.segments ∧
      page.identifier = Segment.identifier page.segments := by
  obtain ⟨source, hparse⟩ := h
  rcases parse_eq_ok hparse with hpage | ⟨segments, hpage, -, -⟩
  · rw [hpage] at hrole
    simp only [ofNotFound, reduceCtorEq] at hrole
  · have hne : segments ≠ [] := by
      rintro rfl
      rw [hpage] at hrole
      simp [ofSegments] at hrole
    rw [hpage]
    exact ⟨hne, rfl, if_neg (by simpa using hne)⟩

/-- The page of the root is called by the name kept for it. -/
theorem of_rootIndex (h : page.IsParsed) (hrole : page.role = .rootIndex) :
    page.componentRef = ⟨rootIndexIdentifier, Path.importSpecifier "index.component.ts"⟩ := by
  obtain ⟨source, hparse⟩ := h
  rcases parse_eq_ok hparse with hpage | ⟨segments, hpage, -, -⟩
  · rw [hpage] at hrole
    simp only [ofNotFound, reduceCtorEq] at hrole
  · have hnil : segments = [] := by
      rw [hpage] at hrole
      simpa [ofSegments] using hrole
    rw [hpage, hnil]
    rfl

end IsParsed

/-! ## The component of a page -/

/-- The component file of a page with a route lies in the directory of the page. -/
theorem IsParsed.componentPath {page : Page} (h : page.IsParsed) (hrole : page.role = .route) :
    page.componentPath = page.directory ++ "/index.component" ++ ".ts" := by
  obtain ⟨hne, hdirectory, -⟩ := h.of_route hrole
  rw [Page.componentPath, if_neg (by rw [hrole]; decide),
    if_neg (hdirectory ▸ Segment.directory_ne_empty h.isRead hne), String.append_assoc]
  rfl

/-- The component of a page with a route is imported from its file. -/
theorem IsParsed.importPath {page : Page} (h : page.IsParsed) (hrole : page.role = .route) :
    page.importPath = "./" ++ (page.directory ++ "/index.component") := by
  obtain ⟨hne, hdirectory, -⟩ := h.of_route hrole
  have hparts : ∀ part ∈ page.segments.map Segment.raw ++ ["index.component.ts"],
      Path.IsPart part := by
    intro part hpart
    rcases List.mem_append.1 hpart with hraw | hfile
    · exact Segment.isPart_of_mem_raws h.isRead hraw
    · rw [List.mem_singleton.1 hfile]
      exact ⟨by decide, by decide, by decide, by decide⟩
  have hjoin : page.directory ++ "/index.component" ++ ".ts" =
      Path.ofParts (page.segments.map Segment.raw ++ ["index.component.ts"]) := by
    rw [Path.ofParts, String.intercalate_append_of_ne_nil (by simpa using hne)
      (List.cons_ne_nil _ _), String.intercalate_singleton, String.append_assoc,
      String.append_assoc, hdirectory]
    rfl
  -- what `importSpecifier` drops is the ending of the component file
  rw [Page.importPath, Path.importSpecifier, h.componentPath hrole, hjoin,
    Path.normalize_ofParts hparts, ← hjoin, Text.dropEnding_append]

end Page

end PageRoutes
