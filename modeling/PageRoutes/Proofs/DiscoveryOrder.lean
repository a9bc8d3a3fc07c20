import PageRoutes.Proofs.Rearrangement
import PageRoutes.Proofs.ScopeConflicts

/-!
# The order of discovery

The order in which pages are discovered decides nothing but the order of what is listed.  A
compilation of the same pages in another order ends in the same way: it fails for the same cause,
or it yields the same routes and the same imports.  Each stage of the compilation keeps to this, so
that the whole does.
-/

namespace PageRoutes

/-! ## Computations that end in the same way -/

namespace CompileError

/-- Errors of the same kind; if guards cause them, they are the same in all details. -/
inductive SameCause : CompileError → CompileError → Prop where
  | invalidPagePath (path path' : String) (fault fault' : PathFault) :
      SameCause (.invalidPagePath path fault) (.invalidPagePath path' fault')
  | duplicateIdentifier (identifier first second identifier' first' second' : String) :
      SameCause (.duplicateIdentifier identifier first second)
        (.duplicateIdentifier identifier' first' second')
  | guard {error : CompileError} (h : error.IsGuardError) : SameCause error error
  | conflictingScope (route first second route' first' second' : String) :
      SameCause (.conflictingScope route first second) (.conflictingScope route' first' second')

end CompileError

section Outcomes

variable {α β γ δ : Type} {R : α → β → Prop} {S : γ → δ → Prop} {x : Except CompileError α}
  {y : Except CompileError β}

/-- Both computations end well, with related results, or both fail for the same cause. -/
inductive SameOutcome (R : α → β → Prop) :
    Except CompileError α → Except CompileError β → Prop where
  | ok {a : α} {b : β} (h : R a b) : SameOutcome R (.ok a) (.ok b)
  | error {e e' : CompileError} (h : e.SameCause e') : SameOutcome R (.error e) (.error e')

/-- Steps that end in the same way after computations that do. -/
theorem SameOutcome.bind {f : α → Except CompileError γ} {g : β → Except CompileError δ}
    (h : SameOutcome R x y) (hstep : ∀ a b, R a b → SameOutcome S (f a) (g b)) :
    SameOutcome S (x >>= f) (y >>= g) := by
  cases h with
  | ok hab => exact hstep _ _ hab
  | error hcause => exact .error hcause

/-- Computations of which either both or none end well, and whose errors have one cause. -/
theorem SameOutcome.of_iff (hiff : (∃ a, x = .ok a) ↔ ∃ b, y = .ok b)
    (hok : ∀ a b, x = .ok a → y = .ok b → R a b)
    (herror : ∀ e e', x = .error e → y = .error e' → e.SameCause e') : SameOutcome R x y := by
  cases x with
  | ok a =>
    obtain ⟨b, rfl⟩ := hiff.1 ⟨a, rfl⟩
    exact .ok (hok a b rfl rfl)
  | error e =>
    cases y with
    | ok b =>
      obtain ⟨a, ha⟩ := hiff.2 ⟨b, rfl⟩
      cases ha
    | error e' => exact .error (herror e e' rfl rfl)

theorem SameOutcome.imp {R' : α → β → Prop} (h : SameOutcome R x y)
    (himp : ∀ a b, x = .ok a → y = .ok b → R' a b) : SameOutcome R' x y := by
  cases h with
  | ok => exact .ok (himp _ _ rfl rfl)
  | error hcause => exact .error hcause

end Outcomes

/-! ## Reading pages -/

namespace Page

/-- The place of a page is all that it takes from its index. -/
theorem map_unplaced_parse (source : String) (index : Nat) :
    (parse source index).map unplaced = parse source 0 := by
  simp only [parse]
  cases (Path.parts source).getLast? with
  | none => rfl
  | some file =>
    dsimp only
    split
    · rfl
    · cases (Path.parts source).dropLast.mapM (Segment.classify · source) <;> rfl

theorem exists_fault_of_parse {source : String} {index : Nat} {error : CompileError}
    (h : parse source index = .error error) : ∃ fault, error = .invalidPagePath source fault := by
  unfold parse at h
  cases hlast : (Path.parts source).getLast? with
  | none =>
    simp only [hlast] at h
    cases h
    exact ⟨_, rfl⟩
  | some file =>
    simp only [hlast] at h
    split at h
    · cases h
    · rcases bind_eq_error_iff.1 h with hread | ⟨segments, -, hpure⟩
      · obtain ⟨raw, -, hclassify⟩ := exists_eq_error_of_mapM hread
        unfold Segment.classify at hclassify
        split at hclassify
        · cases hclassify
        · cases hclassify
          exact ⟨_, rfl⟩
      · cases hpure

/-- Repeated names are reported as such. -/
theorem exists_of_duplicateIdentifier? {earlier pages : List Page} {error : CompileError}
    (h : duplicateIdentifier? earlier pages = some error) :
    ∃ identifier first second, error = .duplicateIdentifier identifier first second := by
  induction pages generalizing earlier with
  | nil => cases h
  | cons page rest ih =>
    rw [duplicateIdentifier?] at h
    split at h
    · cases h
      exact ⟨_, _, _, rfl⟩
    · exact ih h

theorem exists_of_requireDistinctIdentifiers {pages : List Page} {error : CompileError}
    (h : requireDistinctIdentifiers pages = .error error) :
    ∃ identifier first second, error = .duplicateIdentifier identifier first second := by
  unfold requireDistinctIdentifiers at h
  cases hfound : duplicateIdentifier? [] pages with
  | none =>
    simp only [hfound] at h
    cases h
  | some found =>
    simp only [hfound] at h
    cases h
    exact exists_of_duplicateIdentifier? hfound

end Page

namespace CompileInput

variable {paths others : List String} {pages : List Page}

/-- Reading the paths in another order yields the same pages at other places. -/
theorem exists_rearranged_of_perm (hperm : paths.Perm others) (h : parsePages paths = .ok pages) :
    ∃ pages', parsePages others = .ok pages' ∧ Page.Rearranged pages pages' :=
  exists_perm_of_mapM_zipIdx Page.map_unplaced_parse hperm h

theorem exists_fault_of_parsePages {error : CompileError} (h : parsePages paths = .error error) :
    ∃ path fault, error = .invalidPagePath path fault := by
  obtain ⟨⟨path, index⟩, -, hparse⟩ := exists_eq_error_of_mapM h
  exact ⟨path, Page.exists_fault_of_parse hparse⟩

end CompileInput

/-! ## The stages of a compilation -/

section Stages

variable {paths others : List String} {pages pages' : List Page}

/-- Reading pages. -/
theorem sameOutcome_parsePages (hperm : paths.Perm others) :
    SameOutcome Page.Rearranged (CompileInput.parsePages paths)
      (CompileInput.parsePages others) := by
  apply SameOutcome.of_iff
  · constructor
    · rintro ⟨pages, h⟩
      obtain ⟨pages', h', -⟩ := CompileInput.exists_rearranged_of_perm hperm h
      exact ⟨pages', h'⟩
    · rintro ⟨pages, h⟩
      obtain ⟨pages', h', -⟩ := CompileInput.exists_rearranged_of_perm hperm.symm h
      exact ⟨pages', h'⟩
  · intro pages pages' h h'
    obtain ⟨pages'', h'', hsame⟩ := CompileInput.exists_rearranged_of_perm hperm h
    obtain rfl := Except.ok.inj (h'.symm.trans h'')
    exact hsame
  · intro e e' h h'
    obtain ⟨path, fault, rfl⟩ := CompileInput.exists_fault_of_parsePages h
    obtain ⟨path', fault', rfl⟩ := CompileInput.exists_fault_of_parsePages h'
    exact .invalidPagePath _ _ _ _

/-- Comparing component names. -/
theorem sameOutcome_requireDistinctIdentifiers (h : Page.Rearranged pages pages') :
    SameOutcome (fun _ _ => True) (Page.requireDistinctIdentifiers pages)
      (Page.requireDistinctIdentifiers pages') := by
  have hidentifiers : (pages.map (·.identifier)).Perm (pages'.map (·.identifier)) := by
    have hmapped := List.Perm.map (fun page : Page => page.identifier) h
    rwa [List.map_map, List.map_map] at hmapped
  apply SameOutcome.of_iff
  · have hok : ∀ ps : List Page, (∃ u, Page.requireDistinctIdentifiers ps = .ok u) ↔
        (ps.map (·.identifier)).Nodup := by
      intro ps
      rw [← Page.requireDistinctIdentifiers_eq_ok_iff]
      exact ⟨fun ⟨⟨⟩, hps⟩ => hps, fun hps => ⟨(), hps⟩⟩
    rw [hok, hok, hidentifiers.nodup_iff]
  · exact fun _ _ _ _ => trivial
  · intro e e' he he'
    obtain ⟨identifier, first, second, rfl⟩ := Page.exists_of_requireDistinctIdentifiers he
    obtain ⟨identifier', first', second', rfl⟩ := Page.exists_of_requireDistinctIdentifiers he'
    exact .duplicateIdentifier _ _ _ _ _ _

/-- Reading guards. -/
theorem sameOutcome_load (classesOf : ClassReader) (sources : List GuardSource) :
    SameOutcome (· = ·) (GuardRegistry.load classesOf sources)
      (GuardRegistry.load classesOf sources) := by
  cases hload : GuardRegistry.load classesOf sources with
  | ok registry => exact .ok rfl
  | error e => exact .error (.guard (GuardRegistry.isGuardError_of_load hload))

/-- Filling the site. -/
theorem sameOutcome_ofPages (h : Page.Rearranged pages pages') :
    SameOutcome (fun _ _ => True) (Site.ofPages pages) (Site.ofPages pages') := by
  apply SameOutcome.of_iff
  · rw [Site.exists_ofPages_eq_ok_iff, Site.exists_ofPages_eq_ok_iff]
    have hled : ∀ d, Site.LedTo pages d ↔ Site.LedTo pages' d :=
      fun d => h.exists_iff fun _ => Iff.rfl
    simp only [hled]
  · exact fun _ _ _ _ => trivial
  · intro e e' he he'
    obtain ⟨d, f, -, -, -, -, rfl⟩ := Site.reportsConflict_of_ofPages he
    obtain ⟨d', f', -, -, -, -, rfl⟩ := Site.reportsConflict_of_ofPages he'
    exact .conflictingScope _ _ _ _ _ _

end Stages

namespace CompileInput

/-- A compilation of the same pages in another order fails for the same cause, or it yields the
same routes and the same imports. -/
theorem sameOutcome_compile_of_perm (classesOf : ClassReader) (input : CompileInput)
    {paths : List String} (hperm : input.pagePaths.Perm paths) :
    SameOutcome (fun compiled other => compiled.tree.Alike other.tree ∧
        compiled.emission.imports.Perm other.emission.imports)
      (input.compile classesOf) ({ input with pagePaths := paths }.compile classesOf) := by
  have hends : SameOutcome (fun _ _ => True) (input.compile classesOf)
      ({ input with pagePaths := paths }.compile classesOf) := by
    apply (sameOutcome_parsePages hperm).bind
    intro pages pages' hpages
    apply (sameOutcome_requireDistinctIdentifiers hpages).bind
    intro _ _ _
    apply (sameOutcome_load classesOf input.guardSources).bind
    rintro registry _ rfl
    apply SameOutcome.bind (R := fun _ _ => True)
    · apply (sameOutcome_ofPages hpages).bind
      exact fun _ _ _ => .ok trivial
    · exact fun _ _ _ => .ok trivial
  apply hends.imp
  intro compiled other h h'
  obtain ⟨registry, site, haccepted⟩ := compile_eq_ok_iff.1 h
  obtain ⟨registry', site', haccepted'⟩ := compile_eq_ok_iff.1 h'
  obtain rfl := Except.ok.inj (haccepted.loaded.symm.trans haccepted'.loaded)
  obtain ⟨pages, hpages, hsame⟩ := exists_rearranged_of_perm hperm haccepted.parsed
  obtain rfl := Except.ok.inj (hpages.symm.trans haccepted'.parsed)
  exact ⟨haccepted.alike_tree haccepted' hsame rfl, haccepted.imports_perm haccepted' hsame⟩

/-- A page below a scope, found before or after the pages on the way to it. -/
theorem sameOutcome_compile_of_perm_scope :
    ∃ compiled other,
      compile (fun _ _ => .error "") ⟨["docs/#guides/_id/index.html", "docs/#guides/index.html",
        "docs/index.html"], [], []⟩ = .ok compiled ∧
      compile (fun _ _ => .error "") ⟨["docs/index.html", "docs/#guides/_id/index.html",
        "docs/#guides/index.html"], [], []⟩ = .ok other ∧
      compiled.tree.Alike other.tree ∧ compiled.emission.imports.Perm other.emission.imports := by
  have hperm : ["docs/#guides/_id/index.html", "docs/#guides/index.html", "docs/index.html"].Perm
      ["docs/index.html", "docs/#guides/_id/index.html", "docs/#guides/index.html"] := by
    decide
  obtain ⟨compiled, h⟩ := exists_eq_ok_of_isOk
    (x := compile (fun _ _ => .error "") ⟨["docs/#guides/_id/index.html", "docs/#guides/index.html",
      "docs/index.html"], [], []⟩) (by decide +kernel)
  obtain ⟨other, h'⟩ := exists_eq_ok_of_isOk
    (x := compile (fun _ _ => .error "") ⟨["docs/index.html", "docs/#guides/_id/index.html",
      "docs/#guides/index.html"], [], []⟩) (by decide +kernel)
  have hsame := sameOutcome_compile_of_perm (fun _ _ => .error "") ⟨_, [], []⟩ hperm
  rw [h, h'] at hsame
  cases hsame with
  | ok hboth => exact ⟨compiled, other, h, h', hboth⟩

end CompileInput

end PageRoutes
