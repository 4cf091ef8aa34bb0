import CmakeDriver.Proofs.Execution.Attempt
import CmakeDriver.Proofs.Report.Reading
import CmakeDriver.Proofs.World.Leads
import CmakeDriver.Run.Doctor

/-!
# What the doctor's report says

The doctor prints one JSON text and a line feed, whatever the world and the configuration are, and
does nothing else. The text reads as an object with the six fields of the report. The texts of the
configuration stand in it as they are, and what it says about files is so: a path exists if it leads
somewhere through links, and every fault on the way counts as absence.

Results:
* `toolchainExists_iff`, `buildFolderConfigured_iff`: what the doctor finds out about files.
* `parse?_document`: what the report reads as.
* `doctor_reports`: what the doctor does, in all worlds and for all configurations.
-/

namespace CmakeDriver

open Bytes (ofString)

namespace Diagnosis

variable (w : World) (c : Config)

theorem toolchainExists_iff :
    (Diagnosis.of w c).toolchainExists = true ↔
      ∃ t, c.toolchain = some t ∧ w.Exists (ofString t) := by
  simp only [Diagnosis.of, Option.any_eq_true, World.holds_iff_exists]

theorem buildFolderConfigured_iff :
    (Diagnosis.of w c).buildFolderConfigured = true ↔
      ∃ p, Path.Inside (ofString World.cacheName) (ofString c.buildFolder) p ∧ w.Exists p := by
  have hname : Path.isAbsolute (ofString World.cacheName) = false := by decide
  simp only [Diagnosis.of, World.cachePath, World.holds_iff_exists, Path.inside_iff hname,
    exists_eq_left]

/-- The text of a report, without the line feed behind it. -/
def document (d : Diagnosis) : String :=
  String.ofList (Json.object d.fields)

theorem report_eq (d : Diagnosis) : d.report = d.document ++ "\n" :=
  String.ofList_append

/-- **A report reads as what was found**, with the same texts. -/
theorem parse?_document (d : Diagnosis) :
    Json.parse? d.document = some (.object (d.fields.map Json.member)) :=
  Json.parse?_object d.fields

end Diagnosis

namespace World

/-- **The doctor reports what is so**, in all worlds and for all configurations. It succeeds, starts
nothing, and prints one JSON text and a line feed. The text is an object with six fields: the texts
of the configuration character by character, the path at which the executable is resolved, or null
if there is none, and whether the toolchain and the build folder's cache exist through links. -/
theorem doctor_reports (w : World) (c : Config) :
    (w.doctor c).result = .ok () ∧ (w.doctor c).attempts = [] ∧ (w.doctor c).calls = [] ∧
    ∃ document toolchainExists configured,
      (w.doctor c).events = [.out (document ++ "\n")] ∧
      Json.parse? document = some (.object
        [("cmake_binary", .text c.cmakeBinary),
          ("cmake_resolved", ((cmakeOf c).resolve w).elim .null .text),
          ("toolchain", c.toolchain.elim .null .text),
          ("toolchain_exists", .boolean toolchainExists),
          ("build_folder", .text c.buildFolder),
          ("build_folder_configured", .boolean configured)]) ∧
      (toolchainExists = true ↔ ∃ t, c.toolchain = some t ∧ w.Exists (ofString t)) ∧
      (configured = true ↔ ∃ p,
        Path.Inside (ofString "CMakeCache.txt") (ofString c.buildFolder) p ∧ w.Exists p) := by
  refine ⟨w.result_doctor c, rfl, rfl, (Diagnosis.of w c).document, _, _, ?_, ?_,
    Diagnosis.toolchainExists_iff w c, Diagnosis.buildFolderConfigured_iff w c⟩
  · rw [events_doctor, Diagnosis.report_eq]
  · rw [Diagnosis.parse?_document]
    simp only [Diagnosis.fields, Diagnosis.of, List.map_cons, Json.member,
      Json.Scalar.value_ofText?]
    rfl

end World

end CmakeDriver
