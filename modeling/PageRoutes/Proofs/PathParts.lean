import PageRoutes.Path
import PageRoutes.Proofs.Lists

/-!
# Paths and their parts

A part of a path is a non-empty text other than `.` without separators.  Paths in normal form and
lists of such parts are the same thing: joining the parts and splitting the joined text again
changes nothing.
-/

namespace PageRoutes.Path

/-- A text that can stand between the separators of a path in normal form. -/
structure IsPart (part : String) : Prop where
  ne_empty : part ≠ ""
  ne_dot : part ≠ "."
  slash_not_mem : '/' ∉ part.toList
  backslash_not_mem : '\\' ∉ part.toList

/-! ## Splitting and joining -/

/-- A joined text splits into the texts that were joined. -/
theorem splitOn_intercalate_texts {texts : List String} (hne : texts ≠ [])
    (hslash : ∀ text ∈ texts, '/' ∉ text.toList) :
    ("/".intercalate texts).toList.splitOn '/' = texts.map String.toList := by
  rw [String.toList_intercalate]
  refine List.splitOn_intercalate '/' ?_ (by simpa using hne)
  intro chars hchars
  obtain ⟨text, htext, rfl⟩ := List.mem_map.1 hchars
  exact hslash text htext

/-! ## Parts -/

/-- Every part of a path is a part. -/
theorem isPart_of_mem_parts {path part : String} (hpart : part ∈ parts path) : IsPart part := by
  simp only [parts, List.mem_filter, List.mem_map, Bool.and_eq_true, bne_iff_ne] at hpart
  obtain ⟨⟨chars, hchars, rfl⟩, hempty, hdot⟩ := hpart
  refine ⟨hempty, hdot, ?_, ?_⟩
  · rw [String.toList_ofList]
    exact fun hmem => (mem_of_mem_splitOn hchars hmem).2 rfl
  · rw [String.toList_ofList]
    intro hmem
    -- no backslash is left once they are all written as slashes
    obtain ⟨c, -, hc⟩ := List.mem_map.1 (mem_of_mem_splitOn hchars hmem).1
    split at hc
    · exact absurd hc (by decide)
    · exact ‹¬c = '\\'› hc

/-- Without backslashes there is nothing to write as a slash. -/
theorem map_slash_of_not_mem {chars : List Char} (hchars : '\\' ∉ chars) :
    (chars.map fun c => if c = '\\' then '/' else c) = chars := by
  refine (List.map_congr_left fun c hc => if_neg ?_).trans (List.map_id chars)
  rintro rfl
  exact hchars hc

/-- The normal form that joins some parts has these parts. -/
theorem parts_ofParts {ps : List String} (hps : ∀ part ∈ ps, IsPart part) :
    parts (ofParts ps) = ps := by
  by_cases hnil : ps = []
  · subst hnil
    rfl
  have hslashes : ((ofParts ps).toList.map fun c => if c = '\\' then '/' else c) =
      (ofParts ps).toList := by
    rw [ofParts, String.toList_intercalate, map_intercalate, List.map_map]
    congr 1
    refine List.map_congr_left fun part hpart => ?_
    exact map_slash_of_not_mem (hps part hpart).backslash_not_mem
  have hsplit : (ofParts ps).toList.splitOn '/' = ps.map String.toList :=
    splitOn_intercalate_texts hnil fun part hpart => (hps part hpart).slash_not_mem
  have htexts : (ps.map String.toList).map String.ofList = ps := by
    rw [List.map_map]
    exact List.map_id'' (fun _ => String.ofList_toList) ps
  rw [parts, hslashes, hsplit, htexts, List.filter_eq_self]
  intro part hpart
  simp only [Bool.and_eq_true, bne_iff_ne]
  exact ⟨(hps part hpart).ne_empty, (hps part hpart).ne_dot⟩

theorem parts_of_isPart {part : String} (h : IsPart part) : parts part = [part] := by
  have hparts := @parts_ofParts [part] fun other hother => by rwa [List.mem_singleton.1 hother]
  rwa [ofParts, String.intercalate_singleton] at hparts

theorem toList_append_slash (front back : String) :
    (front ++ ("/" ++ back)).toList = front.toList ++ '/' :: back.toList := by
  simp

/-- The parts of a path are those in front of a separator and those behind it. -/
theorem parts_append_slash (front back : String) :
    parts (front ++ ("/" ++ back)) = parts front ++ parts back := by
  have hslash : (if '/' = '\\' then '/' else '/') = '/' := rfl
  rw [parts, toList_append_slash, List.map_append, List.map_cons, hslash,
    List.splitOn_append_cons_self, List.map_append, List.filter_append, parts, parts]

/-- A joined path ends in its last part. -/
theorem ofParts_concat (ps : List String) (file : String) :
    ofParts (ps ++ [file]) = file ∨ ∃ front, ofParts (ps ++ [file]) = front ++ ("/" ++ file) := by
  by_cases hnil : ps = []
  · rw [hnil, List.nil_append, ofParts, String.intercalate_singleton]
    exact Or.inl rfl
  · refine Or.inr ⟨ofParts ps, ?_⟩
    rw [ofParts, String.intercalate_append_of_ne_nil hnil (List.cons_ne_nil _ _),
      String.intercalate_singleton, String.append_assoc]
    rfl

/-- A path that ends in a part has this part as its last one. -/
theorem getLast?_parts_ofParts {names : List String} {file : String} (hfile : IsPart file)
    (hlast : names.getLast? = some file) : (parts (ofParts names)).getLast? = some file := by
  obtain ⟨front, rfl⟩ := List.getLast?_eq_some_iff.1 hlast
  have hsingle : parts file = [file] := parts_of_isPart hfile
  rcases ofParts_concat front file with heq | ⟨rest, heq⟩
  · rw [heq, hsingle]
    rfl
  · rw [heq, parts_append_slash, hsingle, List.getLast?_concat]

/-- What joins parts is its own normal form. -/
theorem normalize_ofParts {ps : List String} (hps : ∀ part ∈ ps, IsPart part) :
    normalize (ofParts ps) = ofParts ps := by
  rw [normalize, parts_ofParts hps]

end PageRoutes.Path
