import PageRoutes.Site
import PageRoutes.Proofs.Lineage
import PageRoutes.Proofs.ParsedPage

/-!
# Filling a site

A site is filled by one run of visits, each of one page to one directory.  After any run that ends
well there is one entry for each visited directory, every entry sums up the visits to its
directory, and no two visited directories share a route pattern.  Each of these facts is kept by a
single visit, wherever the page comes from and in whatever order the directories are met.
-/

namespace PageRoutes

open Placement

/-- A page on its way outwards, at one of the directories to which it leads. -/
structure Visit where
  page : Page
  directory : List Segment

namespace Visit

/-- The visits that one page makes, from its own directory outwards. -/
def ofPage (page : Page) : List Visit :=
  (lineage page.segments).map (Visit.mk page)

/-- The visits of all pages with routes of their own. -/
def ofPages (pages : List Page) : List Visit :=
  (pages.filter (·.role = .route)).flatMap ofPage

theorem mem_ofPages {pages : List Page} {v : Visit} :
    v ∈ ofPages pages ↔
      (v.page ∈ pages ∧ v.page.role = .route) ∧ v.directory ∈ lineage v.page.segments := by
  rw [ofPages, List.mem_flatMap]
  constructor
  · rintro ⟨page, hpage, hv⟩
    obtain ⟨d, hd, rfl⟩ := List.mem_map.1 hv
    exact ⟨by simpa using hpage, hd⟩
  · rintro ⟨hpage, hd⟩
    exact ⟨v.page, by simpa using hpage, List.mem_map.2 ⟨v.directory, hd, rfl⟩⟩

end Visit

/-! ## Entries -/

namespace SiteEntry

variable {entry : SiteEntry} {entries : List SiteEntry} {page : Page} {d e : List Segment}
  {vs : List Visit}

@[simp] theorem directory_first : (first d page).directory = d := rfl

@[simp] theorem directory_meet : (entry.meet page).directory = entry.directory := by
  unfold meet
  split
  · rfl
  · split <;> rfl

/-- An entry sums up the visits to its directory: it has the page and the place of the last visit
from the directory itself, or, as long as there is none, the least place of all visits. -/
structure Records (entry : SiteEntry) (vs : List Visit) : Prop where
  of_page : ∀ page, entry.page = some page →
    ⟨page, entry.directory⟩ ∈ vs ∧ page.segments = entry.directory ∧ entry.orderKey = page.place
  of_none : entry.page = none →
    (∃ v ∈ vs, v.directory = entry.directory ∧ v.page.place = entry.orderKey) ∧
      ∀ v ∈ vs, v.directory = entry.directory →
        v.page.segments ≠ entry.directory ∧ entry.orderKey ≤ v.page.place

/-- A visit from the directory itself settles the entry, whatever it was before. -/
theorem records_meet_of_home (hhome : page.segments = entry.directory) :
    (entry.meet page).Records (vs ++ [⟨page, entry.directory⟩]) := by
  rw [meet, if_pos hhome]
  refine ⟨?_, fun hnone => by simp at hnone⟩
  rintro _ hpage
  cases hpage
  exact ⟨by simp, hhome, rfl⟩

/-- One more visit to the directory of an entry. -/
theorem Records.meet (h : entry.Records vs) (page : Page) :
    (entry.meet page).Records (vs ++ [⟨page, entry.directory⟩]) := by
  by_cases hhome : page.segments = entry.directory
  · exact records_meet_of_home hhome
  rw [SiteEntry.meet, if_neg hhome]
  cases hpage : entry.page with
  | some own =>
    obtain ⟨hmem, hown⟩ := h.of_page own hpage
    refine ⟨?_, fun hnone => absurd hnone (by simp [hpage])⟩
    intro page' hpage'
    obtain rfl : own = page' := by simpa [hpage] using hpage'
    exact ⟨List.mem_append_left _ hmem, hown⟩
  | none =>
    obtain ⟨⟨v, hv, hvd, hvkey⟩, hall⟩ := h.of_none hpage
    refine ⟨fun page' hpage' => absurd hpage' (by simp), fun _ => ⟨?_, ?_⟩⟩
    · -- the least place so far is the old one or the new one
      rcases Nat.le_total entry.orderKey page.place with hle | hle
      · refine ⟨v, List.mem_append_left _ hv, hvd, ?_⟩
        simpa only [Option.isNone_none, if_true, Nat.min_eq_left hle] using hvkey
      · refine ⟨⟨page, entry.directory⟩, by simp, rfl, ?_⟩
        simp only [Option.isNone_none, if_true, Nat.min_eq_right hle]
    · intro w hw hwd
      simp only [Option.isNone_none, if_true] at hwd ⊢
      rcases List.mem_append.1 hw with hw | hw
      · obtain ⟨hne, hle⟩ := hall w hw hwd
        exact ⟨hne, Nat.le_trans (Nat.min_le_left _ _) hle⟩
      · rw [List.mem_singleton.1 hw]
        exact ⟨hhome, Nat.min_le_right _ _⟩

/-- The first visit to a directory. -/
theorem records_first (hnew : ∀ v ∈ vs, v.directory ≠ d) :
    ((first d page).meet page).Records (vs ++ [⟨page, d⟩]) := by
  by_cases hhome : page.segments = d
  · exact records_meet_of_home hhome
  have hmeet : (first d page).meet page = first d page := by
    rw [SiteEntry.meet, if_neg (by simpa using hhome)]
    simp [first]
  rw [hmeet]
  refine ⟨fun page' hpage' => by simp [first] at hpage', fun _ => ⟨?_, ?_⟩⟩
  · exact ⟨⟨page, d⟩, by simp, rfl, rfl⟩
  · intro w hw hwd
    rcases List.mem_append.1 hw with hw | hw
    · exact absurd hwd (hnew w hw)
    · rw [List.mem_singleton.1 hw]
      exact ⟨hhome, Nat.le_refl _⟩

/-- Visits to other directories do not matter. -/
theorem Records.of_ne (h : entry.Records vs) (hne : entry.directory ≠ d) :
    entry.Records (vs ++ [⟨page, d⟩]) := by
  refine ⟨fun own hown => (h.of_page own hown).imp_left (List.mem_append_left _), fun hnone => ?_⟩
  obtain ⟨⟨v, hv, hvkey⟩, hall⟩ := h.of_none hnone
  refine ⟨⟨v, List.mem_append_left _ hv, hvkey⟩, fun w hw hwd => ?_⟩
  rcases List.mem_append.1 hw with hw | hw
  · exact hall w hw hwd
  · rw [List.mem_singleton.1 hw] at hwd
    exact absurd hwd.symm hne

/-! ## Entering -/

/-- A directory that is entered for the first time comes last, any other one keeps its position. -/
theorem map_directory_enter (page : Page) (d : List Segment) (entries : List SiteEntry) :
    (enter page d entries).map (·.directory) =
      if d ∈ entries.map (·.directory) then entries.map (·.directory)
      else entries.map (·.directory) ++ [d] := by
  induction entries with
  | nil => simp [enter]
  | cons entry rest ih =>
    rw [enter]
    by_cases hd : entry.directory = d
    · rw [if_pos hd, List.map_cons, directory_meet, List.map_cons, if_pos (by simp [hd])]
    · have hmem : d ∈ entry.directory :: rest.map (·.directory) ↔
          d ∈ rest.map (·.directory) := by
        rw [List.mem_cons, or_iff_right (Ne.symm hd)]
      rw [if_neg hd, List.map_cons, ih, List.map_cons]
      simp only [hmem]
      split <;> rfl

/-- The entry of the directory that is entered. -/
theorem find?_enter_self (page : Page) (d : List Segment) (entries : List SiteEntry) :
    (enter page d entries).find? (·.directory == d) =
      some (((entries.find? (·.directory == d)).getD (first d page)).meet page) := by
  induction entries with
  | nil => simp [enter]
  | cons entry rest ih =>
    rw [enter]
    by_cases hd : entry.directory = d
    · simp [hd]
    · rw [if_neg hd, List.find?_cons_of_neg (by simpa using hd), ih,
        List.find?_cons_of_neg (by simpa using hd)]

/-- The entry of another directory. -/
theorem find?_enter_of_ne (page : Page) (hne : d ≠ e) (entries : List SiteEntry) :
    (enter page d entries).find? (·.directory == e) = entries.find? (·.directory == e) := by
  induction entries with
  | nil => simp [enter, hne]
  | cons entry rest ih =>
    rw [enter]
    by_cases hd : entry.directory = d
    · have hother : ¬(entry.directory == e) = true := by simpa [hd] using hne
      rw [if_pos hd, List.find?_cons_of_neg (by simpa using hother),
        List.find?_cons_of_neg (by simpa using hother)]
    · rw [if_neg hd, List.find?_cons, ih, List.find?_cons]

end SiteEntry

namespace Site

variable {site site' : Site} {pages : List Page} {page : Page} {d e : List Segment}
  {vs : List Visit}

/-! ## One visit -/

/-- Directories of which no two different ones share a route pattern. -/
def DistinctPatterns (ds : List (List Segment)) : Prop :=
  ∀ d ∈ ds, ∀ e ∈ ds, Segment.pattern d = Segment.pattern e → d = e

/-- A visit that ends well enters its directory; the directory owns its pattern already, or nobody
owns it yet. -/
theorem visit_cases (h : site.visit page d = .ok site') :
    site'.entries = SiteEntry.enter page d site.entries ∧
      ((d ∈ site.owners ∧ site'.owners = site.owners) ∨
        ((∀ owner ∈ site.owners, Segment.pattern owner ≠ Segment.pattern d) ∧
          site'.owners = site.owners ++ [d])) := by
  unfold visit at h
  cases hfind : site.owners.find? fun e => Segment.pattern e == Segment.pattern d with
  | some owner =>
    simp only [hfind] at h
    split at h
    · rename_i hsame
      subst hsame
      cases h
      exact ⟨rfl, Or.inl ⟨List.mem_of_find?_eq_some hfind, rfl⟩⟩
    · cases h
  | none =>
    simp only [hfind] at h
    cases h
    refine ⟨rfl, Or.inr ⟨fun owner howner => ?_, rfl⟩⟩
    simpa using List.find?_eq_none.1 hfind owner howner

/-- What is known of a site after a run of visits. -/
structure Filled (site : Site) (vs : List Visit) : Prop where
  /-- The entries are those of the visited directories. -/
  mem_directories : ∀ d, d ∈ site.directories ↔ ∃ v ∈ vs, v.directory = d
  nodup : site.directories.Nodup
  /-- Every visited directory owns its route pattern. -/
  mem_owners : ∀ d, d ∈ site.owners ↔ d ∈ site.directories
  distinct : DistinctPatterns site.directories
  records : ∀ d entry, site.entryAt? d = some entry → entry.Records vs

theorem filled_empty : empty.Filled [] where
  mem_directories d := by simp [empty, directories]
  nodup := List.nodup_nil
  mem_owners d := by simp [empty, directories]
  distinct d hd := absurd hd (by simp [empty, directories])
  records d entry hentry := absurd hentry (by simp [empty, entryAt?])

theorem directory_of_entryAt? {entry : SiteEntry} (h : site.entryAt? d = some entry) :
    entry.directory = d := by
  simpa using List.find?_some h

/-- Only directories of the site have entries. -/
theorem entryAt?_eq_none_iff : site.entryAt? d = none ↔ d ∉ site.directories := by
  rw [entryAt?, List.find?_eq_none, directories, List.mem_map]
  constructor
  · rintro hnone ⟨entry, hentry, hd⟩
    exact hnone entry hentry (by simpa using hd)
  · intro hnot entry hentry hd
    exact hnot ⟨entry, hentry, by simpa using hd⟩

/-- A visit adds its directory. -/
theorem directories_visit (h : site.visit page d = .ok site') :
    site'.directories =
      if d ∈ site.directories then site.directories else site.directories ++ [d] := by
  rw [directories, (visit_cases h).1, SiteEntry.map_directory_enter]
  rfl

theorem mem_directories_visit (h : site.visit page d = .ok site') :
    e ∈ site'.directories ↔ e ∈ site.directories ∨ e = d := by
  rw [directories_visit h]
  split
  · exact ⟨Or.inl, fun he => he.elim id fun heq => heq ▸ ‹_›⟩
  · rw [List.mem_append, List.mem_singleton]

theorem nodup_directories_visit (hnodup : site.directories.Nodup)
    (h : site.visit page d = .ok site') : site'.directories.Nodup := by
  rw [directories_visit h]
  split
  · exact hnodup
  · refine List.nodup_append.2 ⟨hnodup, by simp, fun e he f hf => ?_⟩
    rintro rfl
    exact ‹d ∉ site.directories› (List.mem_singleton.1 hf ▸ he)

/-- A visit that ends well meets no other directory with the pattern of its own. -/
theorem Filled.distinct_visit (h : site.Filled vs) (hvisit : site.visit page d = .ok site') :
    DistinctPatterns site'.directories := by
  intro x hx y hy hxy
  rw [mem_directories_visit hvisit] at hx hy
  rcases (visit_cases hvisit).2 with ⟨howned, -⟩ | ⟨hfree, -⟩
  · -- nothing new was entered
    have hd := (h.mem_owners d).1 howned
    exact h.distinct x (hx.elim id fun heq => heq ▸ hd) y (hy.elim id fun heq => heq ▸ hd) hxy
  · rcases hx with hx | rfl <;> rcases hy with hy | rfl
    · exact h.distinct x hx y hy hxy
    · exact absurd hxy (hfree x ((h.mem_owners x).2 hx))
    · exact absurd hxy.symm (hfree y ((h.mem_owners y).2 hy))
    · rfl

/-- After a visit every entry still sums up the visits to its directory. -/
theorem Filled.records_visit {entry : SiteEntry} (h : site.Filled vs)
    (hvisit : site.visit page d = .ok site') (hentry : site'.entryAt? e = some entry) :
    entry.Records (vs ++ [⟨page, d⟩]) := by
  rw [entryAt?, (visit_cases hvisit).1] at hentry
  -- the visit changes the entry of its own directory only
  by_cases hde : d = e
  · subst hde
    rw [SiteEntry.find?_enter_self, Option.some.injEq] at hentry
    subst hentry
    cases hold : site.entryAt? d with
    | some old =>
      have hrecords := (h.records d old hold).meet page
      rw [directory_of_entryAt? hold] at hrecords
      rwa [← entryAt?, hold, Option.getD_some]
    | none =>
      rw [← entryAt?, hold, Option.getD_none]
      refine SiteEntry.records_first fun v hv hvd => ?_
      exact entryAt?_eq_none_iff.1 hold ((h.mem_directories d).2 ⟨v, hv, hvd⟩)
  · rw [SiteEntry.find?_enter_of_ne page hde] at hentry
    refine (h.records e entry hentry).of_ne ?_
    rw [directory_of_entryAt? hentry]
    exact Ne.symm hde

/-- A site stays filled by one more visit. -/
theorem Filled.visit (h : site.Filled vs) (hvisit : site.visit page d = .ok site') :
    site'.Filled (vs ++ [⟨page, d⟩]) where
  mem_directories e := by
    rw [mem_directories_visit hvisit, h.mem_directories]
    simp only [List.mem_append, List.mem_singleton, or_and_right, exists_or, exists_eq_left,
      eq_comm (a := d)]
  nodup := nodup_directories_visit h.nodup hvisit
  mem_owners e := by
    rw [mem_directories_visit hvisit]
    rcases (visit_cases hvisit).2 with ⟨howned, hsame⟩ | ⟨-, hgrown⟩
    · rw [hsame, h.mem_owners]
      exact ⟨Or.inl, fun he => he.elim id fun heq => heq ▸ (h.mem_owners d).1 howned⟩
    · rw [hgrown, List.mem_append, h.mem_owners, List.mem_singleton]
  distinct := h.distinct_visit hvisit
  records _ _ hentry := h.records_visit hvisit hentry

/-! ## All visits -/

/-- Filling a site page by page and each page outwards is one run over all visits. -/
theorem ofPages_eq_foldlM (pages : List Page) :
    ofPages pages =
      (Visit.ofPages pages).foldlM (fun site v => site.visit v.page v.directory) empty := by
  rw [ofPages, Visit.ofPages]
  -- the induction is on the pages still to come, for any site filled so far
  generalize pages.filter (·.role = .route) = routed
  generalize empty = site
  induction routed generalizing site with
  | nil => rfl
  | cons page rest ih =>
    rw [List.foldlM_cons, List.flatMap_cons, List.foldlM_append, walk, Visit.ofPage,
      List.foldlM_map]
    exact congrArg _ (funext ih)

/-- A run of visits that ends well leaves a filled site. -/
theorem filled_of_foldlM {start : List Visit} (h : site.Filled start)
    (hrun : vs.foldlM (fun site v => site.visit v.page v.directory) site = .ok site') :
    site'.Filled (start ++ vs) := by
  induction vs generalizing site start with
  | nil =>
    cases hrun
    rwa [List.append_nil]
  | cons v vs ih =>
    rw [List.foldlM_cons] at hrun
    obtain ⟨mid, hvisit, hrest⟩ := bind_eq_ok_iff.1 hrun
    rw [List.append_cons]
    exact ih (h.visit hvisit) hrest

/-- The site of a list of pages sums up the visits of all pages. -/
theorem filled_of_ofPages (h : ofPages pages = .ok site) : site.Filled (Visit.ofPages pages) := by
  rw [ofPages_eq_foldlM] at h
  exact filled_of_foldlM filled_empty h

/-! ## The site of some pages -/

section OfPages

variable (h : ofPages pages = .ok site)
include h

/-- The directories that need a node are those to which a page with a route leads. -/
theorem mem_directories_iff :
    d ∈ site.directories ↔ ∃ page ∈ pages, page.role = .route ∧ d ∈ lineage page.segments := by
  rw [(filled_of_ofPages h).mem_directories]
  constructor
  · rintro ⟨v, hv, rfl⟩
    obtain ⟨⟨hpage, hrole⟩, hd⟩ := Visit.mem_ofPages.1 hv
    exact ⟨v.page, hpage, hrole, hd⟩
  · rintro ⟨page, hpage, hrole, hd⟩
    exact ⟨⟨page, d⟩, Visit.mem_ofPages.2 ⟨⟨hpage, hrole⟩, hd⟩, rfl⟩

theorem distinctPatterns_directories : DistinctPatterns site.directories :=
  (filled_of_ofPages h).distinct

/-- A directory has its page from the list of pages. -/
theorem of_pageAt?_eq_some (hpage : site.pageAt? d = some page) :
    page ∈ pages ∧ page.role = .route ∧ page.segments = d ∧ site.orderKey d = page.place := by
  obtain ⟨entry, hentry, hown⟩ := Option.bind_eq_some_iff.1 hpage
  obtain ⟨hvisit, hsegments, hkey⟩ := ((filled_of_ofPages h).records d entry hentry).of_page _ hown
  rw [directory_of_entryAt? hentry] at hsegments
  refine ⟨(Visit.mem_ofPages.1 hvisit).1.1, (Visit.mem_ofPages.1 hvisit).1.2, hsegments, ?_⟩
  rw [orderKey, hentry, Option.elim_some, hkey]

/-- A directory without a page of its own takes the least place of the pages that lead to it. -/
theorem of_pageAt?_eq_none (hd : d ∈ site.directories) (hnone : site.pageAt? d = none) :
    (∃ page ∈ pages, page.role = .route ∧ d ∈ lineage page.segments ∧
      page.place = site.orderKey d) ∧
      ∀ page ∈ pages, page.role = .route → d ∈ lineage page.segments →
        page.segments ≠ d ∧ site.orderKey d ≤ page.place := by
  cases hentry : site.entryAt? d with
  | none => exact absurd hd (entryAt?_eq_none_iff.1 hentry)
  | some entry =>
    rw [pageAt?, hentry, Option.bind_some] at hnone
    obtain ⟨⟨v, hv, hvd, hvkey⟩, hall⟩ :=
      ((filled_of_ofPages h).records d entry hentry).of_none hnone
    rw [directory_of_entryAt? hentry] at hvd hall
    rw [orderKey, hentry, Option.elim_some]
    obtain ⟨⟨hpage, hrole⟩, hup⟩ := Visit.mem_ofPages.1 hv
    refine ⟨⟨v.page, hpage, hrole, hvd ▸ hup, hvkey⟩, fun page hpage hrole hup => ?_⟩
    exact hall ⟨page, d⟩ (Visit.mem_ofPages.2 ⟨⟨hpage, hrole⟩, hup⟩) rfl

/-- The own directory of a page with a route has a page. -/
theorem pageAt?_segments_ne_none (hpage : page ∈ pages) (hrole : page.role = .route)
    (hne : page.segments ≠ []) : site.pageAt? page.segments ≠ none := by
  intro hnone
  have hup := self_mem_lineage hne
  have hd := (mem_directories_iff h).2 ⟨page, hpage, hrole, hup⟩
  exact ((of_pageAt?_eq_none h hd hnone).2 page hpage hrole hup).1 rfl

/-- The place of a directory is that of a page that leads to it. -/
theorem exists_place_eq_orderKey (hd : d ∈ site.directories) :
    ∃ page ∈ pages, page.role = .route ∧ d ∈ lineage page.segments ∧
      page.place = site.orderKey d := by
  cases hown : site.pageAt? d with
  | none => exact (of_pageAt?_eq_none h hd hown).1
  | some page =>
    obtain ⟨hpage, hrole, rfl, hkey⟩ := of_pageAt?_eq_some h hown
    obtain ⟨_, -, -, hup⟩ := (mem_directories_iff h).1 hd
    exact ⟨page, hpage, hrole, self_mem_lineage (ne_nil_of_mem_lineage hup), hkey.symm⟩

end OfPages

end Site

end PageRoutes
