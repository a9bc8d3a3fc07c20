import PageRoutes.Proofs.GuardFaults

/-!
# One spelling for each directory

A path can be spelled in many ways, with slashes or backslashes, with separators in front or
repeated, and with `.` between them; all spellings of some names have one normal form.  The
directory of a file is found in three ways: a page joins the names of its segments again, a guard
leaves out the last part of its path, and in the normal form it is the text in front of the last
slash.  All three yield the same text, and different directories yield different texts.
-/

namespace PageRoutes

namespace Path

variable {path front back : String} {names ps : List String}

/-! ## Spellings -/

/-- The ways to spell a path through the given names. -/
inductive Spells : String → List String → Prop where
  | empty : Spells "" []
  /-- The directory in which one is. -/
  | dot : Spells "." []
  | name {part : String} (h : IsPart part) : Spells part [part]
  | slash {front back : String} {outer inner : List String} (hfront : Spells front outer)
      (hback : Spells back inner) : Spells (front ++ ("/" ++ back)) (outer ++ inner)
  | backslash {front back : String} {outer inner : List String} (hfront : Spells front outer)
      (hback : Spells back inner) : Spells (front ++ ("\\" ++ back)) (outer ++ inner)

/-- A backslash separates like a slash. -/
theorem parts_append_backslash (front back : String) :
    parts (front ++ ("\\" ++ back)) = parts front ++ parts back := by
  have hslash : (if '\\' = '\\' then '/' else '\\') = '/' := rfl
  have htext : (front ++ ("\\" ++ back)).toList = front.toList ++ '\\' :: back.toList := by simp
  rw [parts, htext, List.map_append, List.map_cons, hslash, List.splitOn_append_cons_self,
    List.map_append, List.filter_append, parts, parts]

/-- A path without separators is a single name or stands for no name. -/
theorem spells_parts_of_not_mem (hslash : '/' ∉ path.toList) (hbackslash : '\\' ∉ path.toList) :
    Spells path (parts path) := by
  by_cases hempty : path = ""
  · subst hempty
    exact .empty
  by_cases hdot : path = "."
  · subst hdot
    exact .dot
  have hpart : IsPart path := ⟨hempty, hdot, hslash, hbackslash⟩
  rw [parts_of_isPart hpart]
  exact .name hpart

theorem exists_eq_append_of_mem {c : Char} (hc : c ∈ path.toList) :
    ∃ front back, path = front ++ (String.singleton c ++ back) ∧
      front.length < path.length ∧ back.length < path.length := by
  obtain ⟨before, after, hsplit⟩ := List.append_of_mem hc
  refine ⟨String.ofList before, String.ofList after, ?_, ?_, ?_⟩
  · rw [← String.toList_inj, hsplit]
    simp
  · rw [← String.length_toList, ← String.length_toList, hsplit]
    simp
  · rw [← String.length_toList, ← String.length_toList, hsplit]
    simp
    omega

/-- A path spells its parts and nothing else. -/
theorem spells_iff : Spells path names ↔ parts path = names := by
  constructor
  · intro h
    induction h with
    | empty => rfl
    | dot => rfl
    | name h => exact parts_of_isPart h
    | slash _ _ hfront hback => rw [parts_append_slash, hfront, hback]
    | backslash _ _ hfront hback => rw [parts_append_backslash, hfront, hback]
  · rintro rfl
    -- the induction is on the length, as a separator cuts the path into shorter ones
    induction h : path.length using Nat.strongRecOn generalizing path with
    | ind n ih =>
      subst h
      by_cases hslash : '/' ∈ path.toList
      · obtain ⟨front, back, hpath, hfront, hback⟩ := exists_eq_append_of_mem hslash
        have hspells := Spells.slash (ih _ hfront rfl) (ih _ hback rfl)
        rw [← parts_append_slash] at hspells
        rwa [hpath]
      · by_cases hbackslash : '\\' ∈ path.toList
        · obtain ⟨front, back, hpath, hfront, hback⟩ := exists_eq_append_of_mem hbackslash
          have hspells := Spells.backslash (ih _ hfront rfl) (ih _ hback rfl)
          rw [← parts_append_backslash] at hspells
          rwa [hpath]
        · exact spells_parts_of_not_mem hslash hbackslash

/-- Two files lie in one directory, whatever the spellings of their paths. -/
def SameDirectory (path other : String) : Prop :=
  ∃ names others, Spells path names ∧ Spells other others ∧ names.dropLast = others.dropLast

theorem sameDirectory_iff {other : String} :
    SameDirectory path other ↔ (parts path).dropLast = (parts other).dropLast := by
  simp only [SameDirectory, spells_iff, exists_and_left, exists_eq_left']

/-! ## Normal forms -/

theorem parts_normalize (path : String) : parts (normalize path) = parts path :=
  parts_ofParts fun _ => isPart_of_mem_parts

/-- The normal form of a path is its own normal form. -/
theorem normalize_normalize (path : String) : normalize (normalize path) = normalize path := by
  rw [normalize, parts_normalize, normalize]

theorem parent_normalize (path : String) : parent (normalize path) = parent path := by
  rw [parent, parts_normalize, parent]

/-- Parts that join to the same text are the same. -/
theorem ofParts_inj {qs : List String} (hps : ∀ part ∈ ps, IsPart part)
    (hqs : ∀ part ∈ qs, IsPart part) : ofParts ps = ofParts qs ↔ ps = qs := by
  constructor
  · intro heq
    rw [← parts_ofParts hps, heq, parts_ofParts hqs]
  · exact congrArg ofParts

theorem isPart_of_mem_dropLast {part : String} (h : part ∈ (parts path).dropLast) : IsPart part :=
  isPart_of_mem_parts (List.dropLast_subset _ h)

/-- A text up to its last slash; nothing of a text without slashes. -/
def upToLastSlash (text : String) : String :=
  String.ofList ((text.toList.reverse.dropWhile (· != '/')).drop 1).reverse

/-- A text without slashes is passed over from behind. -/
theorem dropWhile_reverse_append {rest : List Char} (hback : '/' ∉ back.toList) :
    (back.toList.reverse ++ rest).dropWhile (· != '/') = rest.dropWhile (· != '/') := by
  refine List.dropWhile_append_of_pos fun c hc => bne_iff_ne.2 ?_
  rintro rfl
  exact hback (List.mem_reverse.1 hc)

theorem upToLastSlash_of_not_mem (hback : '/' ∉ back.toList) : upToLastSlash back = "" := by
  rw [upToLastSlash, ← List.append_nil back.toList.reverse, dropWhile_reverse_append hback]
  rfl

theorem upToLastSlash_append_slash (hback : '/' ∉ back.toList) :
    upToLastSlash (front ++ ("/" ++ back)) = front := by
  rw [upToLastSlash, toList_append_slash, List.reverse_append, List.reverse_cons, List.append_assoc,
    dropWhile_reverse_append hback]
  simp

/-- The directory of a file is its normal form up to the last slash. -/
theorem parent_eq_upToLastSlash (path : String) : parent path = upToLastSlash (normalize path) := by
  rw [parent, normalize]
  rcases List.eq_nil_or_concat (parts path) with hnil | ⟨outer, file, hparts⟩
  · rw [hnil]
    rfl
  · rw [List.concat_eq_append] at hparts
    have hfile : '/' ∉ file.toList :=
      (isPart_of_mem_parts (hparts ▸ List.mem_append_right _ List.mem_cons_self)).slash_not_mem
    rw [hparts, List.dropLast_concat]
    by_cases houter : outer = []
    · rw [houter, List.nil_append, ofParts, ofParts, String.intercalate_singleton,
        upToLastSlash_of_not_mem hfile]
      rfl
    · rw [ofParts, ofParts, String.intercalate_append_of_ne_nil houter (List.cons_ne_nil _ _),
        String.intercalate_singleton, String.append_assoc, upToLastSlash_append_slash hfile]

end Path

/-! ## Pages -/

namespace Page

variable {path other : String} {index place : Nat} {page second : Page}

/-- Whether a page can be read off a path, and which, depends on the parts of the path. -/
theorem parse_eq_ok_iff_of_parts_eq (h : Path.parts other = Path.parts path) :
    parse other index = .ok page ↔ parse path index = .ok page := by
  rw [parse_eq_ok_iff, parse_eq_ok_iff, Path.normalize, h, Path.normalize]

/-- The directory of a page is spelled by its segments, which are read off the parts in front of the
file. -/
theorem directory_of_parse (h : parse path index = .ok page) :
    page.directory = Segment.directory page.segments ∧
      page.segments.map Segment.raw = (Path.parts path).dropLast := by
  obtain ⟨file, -, hpage⟩ := parse_eq_ok_iff.1 h
  split at hpage
  · rename_i hroot
    have hnil : (Path.parts path).dropLast = [] := by
      rw [← List.length_eq_zero_iff, List.length_dropLast, hroot.1]
    rw [hpage, hnil]
    exact ⟨rfl, rfl⟩
  · obtain ⟨segments, hread, rfl⟩ := hpage
    exact ⟨rfl, Segment.map_raw_of_forall₂ hread⟩

theorem directory_eq_parent (h : parse path index = .ok page) :
    page.directory = Path.parent path := by
  obtain ⟨hdirectory, hraws⟩ := directory_of_parse h
  rw [hdirectory, Segment.directory_eq_ofParts, hraws, Path.parent]

/-- Pages that were read lie in one directory exactly if they have the same segments. -/
theorem directory_eq_iff (h : parse path index = .ok page) (h' : parse other place = .ok second) :
    page.directory = second.directory ↔ page.segments = second.segments := by
  have hread : ∀ {path index page}, parse path index = .ok page →
      ∀ s ∈ page.segments, s.IsRead := by
    intro path index page hparse
    refine IsParsed.isRead ⟨path, ?_⟩
    rwa [discoveryIndex_of_parse hparse]
  rw [(directory_of_parse h).1, (directory_of_parse h').1]
  exact ⟨Segment.directory_injective (hread h) (hread h'), congrArg _⟩

end Page

/-! ## Pages and guards -/

namespace Guard

variable {classesOf : ClassReader} {source : GuardSource} {place : Nat} {guard : Guard}

theorem directory_eq_parent (h : describe classesOf source place = .ok guard) :
    guard.directory = Path.parent source.path := by
  rw [(describes_of_describe h).directory, GuardSource.directory, Path.parent_normalize]

/-- A guard applies to the pages of its directory, however the paths are spelled. -/
theorem directory_eq_iff (h : describe classesOf source place = .ok guard) {path : String}
    {index : Nat} {page : Page} (hpage : Page.parse path index = .ok page) :
    guard.directory = page.directory ↔ Path.SameDirectory source.path path := by
  rw [directory_eq_parent h, Page.directory_eq_parent hpage, Path.sameDirectory_iff, Path.parent,
    Path.parent]
  exact Path.ofParts_inj (fun _ => Path.isPart_of_mem_dropLast) fun _ => Path.isPart_of_mem_dropLast

end Guard

/-- What is known of the spellings of directories, however the classes of guard files are read. -/
structure HasOneSpelling (classesOf : ClassReader) : Prop where
  normalize_again : ∀ path, Path.normalize (Path.normalize path) = Path.normalize path
  /-- A path and its normal form are the same page, or none of them is a page. -/
  parse_normalize : ∀ path index page,
    Page.parse (Path.normalize path) index = .ok page ↔ Page.parse path index = .ok page
  parent_eq : ∀ path, Path.parent path = Path.upToLastSlash (Path.normalize path)
  /-- The directory of a page is that of its file and is spelled by its segments. -/
  page_directory : ∀ path index page, Page.parse path index = .ok page →
    page.directory = Path.parent path ∧
      page.directory = "/".intercalate (page.segments.map Segment.raw)
  guard_directory : ∀ source place guard, Guard.describe classesOf source place = .ok guard →
    guard.directory = Path.parent source.path
  /-- A guard and a page have one directory exactly if their files lie in one directory. -/
  guard_directory_eq_iff : ∀ source place guard path index page,
    Guard.describe classesOf source place = .ok guard → Page.parse path index = .ok page →
      (guard.directory = page.directory ↔ Path.SameDirectory source.path path)
  /-- Two pages have one directory exactly if they have the same segments. -/
  directory_eq_iff : ∀ path index page other place second,
    Page.parse path index = .ok page → Page.parse other place = .ok second →
      (page.directory = second.directory ↔ page.segments = second.segments)

/-- Pages and guards spell their directories in one way. -/
theorem hasOneSpelling (classesOf : ClassReader) : HasOneSpelling classesOf where
  normalize_again := Path.normalize_normalize
  parse_normalize path _ _ := Page.parse_eq_ok_iff_of_parts_eq (Path.parts_normalize path)
  parent_eq := Path.parent_eq_upToLastSlash
  page_directory _ _ _ h := ⟨Page.directory_eq_parent h, (Page.directory_of_parse h).1⟩
  guard_directory _ _ _ := Guard.directory_eq_parent
  guard_directory_eq_iff _ _ _ _ _ _ hguard hpage := Guard.directory_eq_iff hguard hpage
  directory_eq_iff _ _ _ _ _ _ := Page.directory_eq_iff

/-- A page and a guard of one directory, each with a spelling of its own. -/
example :
    (Page.parse ".\\docs//#guides/./_id\\index.html" 0).map (·.directory) =
        .ok "docs/#guides/_id" ∧
      Path.parent "/docs\\#guides//_id/./index.guard.ts" = "docs/#guides/_id" := by
  decide +kernel

end PageRoutes
