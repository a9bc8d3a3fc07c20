import PageRoutes.Proofs.PageTree

/-!
# Conflicts between directories

The only thing that can go wrong when a site is filled is that a page leads to a directory whose
route pattern another directory has.  Whether this happens depends on the directories to which the
pages lead, not on the order in which they are met; the order only decides which of two conflicting
directories is met second.  So building a tree fails exactly if two of the directories that its
pages need are in conflict, and reports two such directories.
-/

namespace PageRoutes

open Placement

namespace Site

variable {site : Site} {pages : List Page} {page : Page} {d : List Segment} {vs : List Visit}
  {error : CompileError}

/-- Some page with a route leads to the directory. -/
def LedTo (pages : List Page) (d : List Segment) : Prop :=
  ∃ page ∈ pages, page.role = .route ∧ d ∈ lineage page.segments

/-- The error reports that two different directories have one route pattern. -/
def ReportsConflict (error : CompileError) (first second : List Segment) : Prop :=
  first ≠ second ∧ Segment.pattern first = Segment.pattern second ∧
    error = .conflictingScope (Segment.pattern second) (Segment.directory first)
      (Segment.directory second)

/-- A visit fails if another directory owns the pattern of its own. -/
theorem reportsConflict_of_visit (h : site.visit page d = .error error) :
    ∃ owner ∈ site.owners, ReportsConflict error owner d := by
  unfold visit at h
  cases hfind : site.owners.find? fun e => Segment.pattern e == Segment.pattern d with
  | none =>
    simp only [hfind] at h
    cases h
  | some owner =>
    simp only [hfind] at h
    have hpattern : Segment.pattern owner = Segment.pattern d := by
      simpa using List.find?_some hfind
    by_cases hsame : owner = d
    · rw [if_pos hsame] at h
      cases h
    · rw [if_neg hsame] at h
      exact ⟨owner, List.mem_of_find?_eq_some hfind, hsame, hpattern, (Except.error.inj h).symm⟩

/-- A run of visits fails at two of the visited directories. -/
theorem reportsConflict_of_foldlM {start : List Visit} (h : site.Filled start)
    (hrun : vs.foldlM (fun site v => site.visit v.page v.directory) site = .error error) :
    ∃ v ∈ start ++ vs, ∃ w ∈ start ++ vs, ReportsConflict error v.directory w.directory := by
  induction vs generalizing site start with
  | nil => cases hrun
  | cons v vs ih =>
    rw [List.foldlM_cons, bind_eq_error_iff] at hrun
    rcases hrun with hvisit | ⟨site', hvisit, hrest⟩
    · obtain ⟨owner, howner, hreport⟩ := reportsConflict_of_visit hvisit
      obtain ⟨w, hw, rfl⟩ := (h.mem_directories owner).1 ((h.mem_owners owner).1 howner)
      exact ⟨w, List.mem_append_left _ hw, v, by simp, hreport⟩
    · rw [List.append_cons]
      exact ih (h.visit hvisit) hrest

/-- Filling a site fails at two directories to which pages lead. -/
theorem reportsConflict_of_ofPages (h : ofPages pages = .error error) :
    ∃ d e, LedTo pages d ∧ LedTo pages e ∧ ReportsConflict error d e := by
  rw [ofPages_eq_foldlM] at h
  obtain ⟨v, hv, w, hw, hreport⟩ := reportsConflict_of_foldlM filled_empty h
  obtain ⟨⟨hvpage, hvrole⟩, hvup⟩ := Visit.mem_ofPages.1 hv
  obtain ⟨⟨hwpage, hwrole⟩, hwup⟩ := Visit.mem_ofPages.1 hw
  exact ⟨v.directory, w.directory, ⟨v.page, hvpage, hvrole, hvup⟩, ⟨w.page, hwpage, hwrole, hwup⟩,
    hreport⟩

/-- A site can be filled exactly if no two directories to which pages lead have one pattern. -/
theorem exists_ofPages_eq_ok_iff :
    (∃ site, ofPages pages = .ok site) ↔
      ∀ d e, LedTo pages d → LedTo pages e →
        Segment.pattern d = Segment.pattern e → d = e := by
  constructor
  · rintro ⟨site, h⟩ d e hd he
    exact distinctPatterns_directories h d ((mem_directories_iff h).2 hd) e
      ((mem_directories_iff h).2 he)
  · intro hdistinct
    cases hfill : ofPages pages with
    | ok site => exact ⟨site, rfl⟩
    | error error =>
      obtain ⟨d, e, hd, he, hne, hpattern, -⟩ := reportsConflict_of_ofPages hfill
      exact absurd (hdistinct d e hd he hpattern) hne

/-! ## What is reported -/

/-- Two directories that pages need differ in their spelling and have one route pattern. -/
structure IsConflict (pages : List Page) (first second : List Segment) : Prop where
  needed_first : NeededBy pages first
  needed_second : NeededBy pages second
  directory_ne : Segment.directory first ≠ Segment.directory second
  pattern_eq : Segment.pattern first = Segment.pattern second

variable {first second : List Segment}

section Parsed

variable (hpages : ∀ page ∈ pages, page.IsParsed)
include hpages

theorem ledTo_iff_neededBy : LedTo pages d ↔ NeededBy pages d :=
  (neededBy_iff hpages).symm

/-- Directories that were read are in conflict if they are different and have one pattern. -/
theorem isConflict_iff :
    IsConflict pages first second ↔ LedTo pages first ∧ LedTo pages second ∧ first ≠ second ∧
      Segment.pattern first = Segment.pattern second := by
  rw [ledTo_iff_neededBy hpages, ledTo_iff_neededBy hpages]
  constructor
  · rintro ⟨hfirst, hsecond, hdirectory, hpattern⟩
    exact ⟨hfirst, hsecond, fun heq => hdirectory (congrArg _ heq), hpattern⟩
  · rintro ⟨hfirst, hsecond, hne, hpattern⟩
    refine ⟨hfirst, hsecond, fun heq => hne ?_, hpattern⟩
    exact Segment.directory_injective (hfirst.isRead hpages) (hsecond.isRead hpages) heq

theorem exists_ofPages_eq_error_iff :
    (∃ error, ofPages pages = .error error) ↔ ∃ first second, IsConflict pages first second := by
  constructor
  · rintro ⟨error, h⟩
    obtain ⟨first, second, hfirst, hsecond, hne, hpattern, -⟩ := reportsConflict_of_ofPages h
    exact ⟨first, second, (isConflict_iff hpages).2 ⟨hfirst, hsecond, hne, hpattern⟩⟩
  · rintro ⟨first, second, hconflict⟩
    obtain ⟨hfirst, hsecond, hne, hpattern⟩ := (isConflict_iff hpages).1 hconflict
    cases hfill : ofPages pages with
    | error error => exact ⟨error, rfl⟩
    | ok site =>
      exact absurd (exists_ofPages_eq_ok_iff.1 ⟨site, hfill⟩ first second hfirst hsecond hpattern)
        hne

end Parsed

end Site

namespace Assembly

variable {pages : List Page} {guards : GuardRegistry} {rules : List RedirectRule}
  {error : CompileError}

/-- Building fails where filling the site does. -/
theorem build_eq_error_iff :
    build pages guards rules = .error error ↔ Site.ofPages pages = .error error := by
  rw [build, bind_eq_error_iff]
  refine or_iff_left ?_
  rintro ⟨site, -, hpure⟩
  cases hpure

/-- What is known of the ways in which a tree can fail to be built. -/
structure ReportsConflicts (pages : List Page) (guards : GuardRegistry)
    (rules : List RedirectRule) : Prop where
  /-- Building fails exactly if two directories are in conflict. -/
  fails_iff : (∃ error, build pages guards rules = .error error) ↔
    ∃ first second, Site.IsConflict pages first second
  /-- The error names two directories in conflict and the pattern that they share. -/
  report : ∀ error, build pages guards rules = .error error →
    ∃ first second, Site.IsConflict pages first second ∧
      error = .conflictingScope (Segment.pattern first) (Segment.directory first)
        (Segment.directory second)

/-- For pages that were read, building fails exactly for a conflict, and reports one. -/
theorem reportsConflicts_of_isParsed (pages : List Page) (guards : GuardRegistry)
    (rules : List RedirectRule) (hpages : ∀ page ∈ pages, page.IsParsed) :
    ReportsConflicts pages guards rules where
  fails_iff := by
    simp only [build_eq_error_iff]
    exact Site.exists_ofPages_eq_error_iff hpages
  report error h := by
    obtain ⟨first, second, hfirst, hsecond, hne, hpattern, rfl⟩ :=
      Site.reportsConflict_of_ofPages (build_eq_error_iff.1 h)
    have hconflict := (Site.isConflict_iff hpages).2 ⟨hfirst, hsecond, hne, hpattern⟩
    exact ⟨first, second, hconflict, by rw [hpattern]⟩

/-- The second page lies where the first one has a scope without a page of its own. -/
theorem reportsConflicts_of_isParsed_scope :
    let pages : List Page :=
      [.ofSegments "about/#contact/#form/index.html"
          [.literal "about", .nestedScope "contact", .nestedScope "form"] 0,
        .ofSegments "about/contact/index.html" [.literal "about", .literal "contact"] 1]
    (∀ page ∈ pages, page.IsParsed) ∧
      build pages .empty [] =
        .error (.conflictingScope "about/contact" "about/#contact" "about/contact") ∧
      ReportsConflicts pages .empty [] := by
  intro pages
  have hparsed : ∀ page ∈ pages, page.IsParsed := by
    simp only [pages, List.forall_mem_cons]
    exact ⟨⟨"about/#contact/#form/index.html", by decide +kernel⟩,
      ⟨"about/contact/index.html", by decide +kernel⟩, fun _ h => absurd h List.not_mem_nil⟩
  have hfails : (Site.ofPages pages).map (fun _ => ()) =
      .error (.conflictingScope "about/contact" "about/#contact" "about/contact") := by
    decide +kernel
  refine ⟨hparsed, build_eq_error_iff.2 ?_, reportsConflicts_of_isParsed pages .empty [] hparsed⟩
  cases hfill : Site.ofPages pages with
  | error error =>
    rw [hfill] at hfails
    exact congrArg _ (Except.error.inj hfails)
  | ok site =>
    rw [hfill] at hfails
    cases hfails

end Assembly

end PageRoutes
