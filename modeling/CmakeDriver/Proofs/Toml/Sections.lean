import CmakeDriver.Proofs.Toml.Forms
import CmakeDriver.Proofs.Toml.Lines

/-!
# Documents of plain sections

A plain section is a header and keys with texts behind it. A document of such sections, no two of
one name and no two keys of one name in a section, has one table for each section, in the order of
the headers.

Results:
* `Section.map_move_lines`: a plain section is a section in the header form.
* `parse?_sections`: the entries of such a document.
-/

namespace CmakeDriver

namespace Toml

/-- A section of a plain document: its name, and its keys with their texts. -/
abbrev Section := String × List (String × String)

/-- Keys with their texts as the entries of a table. -/
def texts (pairs : List (String × String)) : Entries :=
  pairs.map fun p => (p.1, .text p.2)

namespace Section

/-- The lines of a section. -/
def lines (s : Section) : List Line :=
  .header s.1 :: s.2.map fun p => .binding p.1 p.2

/-- The table of a section in a document. -/
def entry (s : Section) : String × Value :=
  (s.1, .table (texts s.2))

end Section

/-- Sections that can stand in one document: nothing is named twice. -/
structure DistinctSections (ss : List Section) : Prop where
  names : (ss.map Prod.fst).Nodup
  keys : ∀ s ∈ ss, (s.2.map Prod.fst).Nodup

/-! ## A section under its header -/

/-- A plain section is one of the forms of a section. -/
def Section.layout (s : Section) : Layout :=
  ⟨.header, s.1, texts s.2⟩

theorem Section.map_move_lines (s : Section) : s.lines.map Line.move = s.layout.moves := by
  simp [Section.lines, Section.layout, Layout.moves, Line.move, texts]

theorem map_fst_texts (pairs : List (String × String)) :
    (texts pairs).map Prod.fst = pairs.map Prod.fst := by
  rw [texts, List.map_map]
  rfl

theorem DistinctSections.placed {ss : List Section} (hd : DistinctSections ss) :
    Placed (ss.map Section.layout) where
  names := by
    rw [List.map_map]
    exact hd.names
  keys := by
    intro l hl
    obtain ⟨s, hs, rfl⟩ := List.mem_map.1 hl
    rw [Section.layout, map_fst_texts]
    exact hd.keys s hs
  headersLast := by
    refine List.pairwise_of_forall_mem_list fun a _ b hb _ => ?_
    obtain ⟨s, -, rfl⟩ := List.mem_map.1 hb
    rfl
  nonempty := by
    intro l hl hf
    obtain ⟨s, -, rfl⟩ := List.mem_map.1 hl
    exact absurd hf (by simp [Section.layout])

/-! ## All sections -/

/-- **The entries of a document of plain sections** are their tables, in order. -/
theorem parse?_sections {ss : List Section} (hd : DistinctSections ss) {text : String}
    (h : Written (ss.flatMap Section.lines) text.toList) :
    parse? text = some (ss.map Section.entry) := by
  have hreads : Reader.Reads (withoutMark text.toList)
      ((ss.map Section.layout).flatMap Layout.moves) := by
    rw [withoutMark_written h, List.flatMap_map]
    simpa only [List.map_flatMap, Section.map_move_lines] using h.reads
  rw [parse?_laidOut hd.placed hreads, List.map_map]
  rfl

end Toml

end CmakeDriver
