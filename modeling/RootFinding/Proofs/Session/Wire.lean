import Mathlib
import RootFinding.Proofs.Json.Codec
import RootFinding.Session.Wire

/-! The texts of what a session is given and gives. The shapes are proper, and
so a library that keeps its promises writes faithful texts. -/

namespace RootFinding

open JsonCodec

/-- All that is given to a session, and all that comes out of it, can be kept as
a text. -/
theorem texts_faithful (library : JsonLibrary String)
    (documented : library.IsDocumented) :
    library.IsFaithful Inputs ∧ library.IsFaithful Bisection.Config ∧
      library.IsFaithful IterationRecord ∧
        library.IsFaithful (List IterationRecord) ∧
          library.IsFaithful SignClass ∧
            library.IsFaithful Bisection.Status ∧
              library.IsFaithful SessionState ∧
                library.IsFaithful StepReport ∧ library.IsFaithful Summary ∧
                  library.IsFaithful Overlay ∧ library.IsFaithful Frame :=
  ⟨documented.isFaithful (by decide), documented.isFaithful (by decide),
    documented.isFaithful (by decide), documented.isFaithful (by decide),
    documented.isFaithful (by decide), documented.isFaithful (by decide),
    documented.isFaithful (by decide), documented.isFaithful (by decide),
    documented.isFaithful (by decide), documented.isFaithful (by decide),
    documented.isFaithful (by decide)⟩

/-- At work, a missing range is read back, next to a negative zero and a small
float. A range with an undefined end is refused, although the same `null` is
written for the end as for a missing range. -/
theorem texts_faithful_frames :
    let library := Json.library
    let whole : Frame := ⟨(-0.0, 5e-324), none, [(0.1, 2.0)], none⟩
    let broken : Frame := ⟨(-0.0, 1.0), some (0.0 / 0.0, 1.0), [], none⟩
    library.IsDocumented ∧
      library.serialize whole =
        "\x7b\"x_range\":[-0.0,5e-324],\"y_range\":null," ++
          "\"curve\":[[0.1,2.0]],\"overlay\":null\x7d" ∧
        library.deserialize? Frame (library.serialize whole) = some whole ∧
          library.serialize broken =
            "\x7b\"x_range\":[-0.0,1.0],\"y_range\":[null,1.0]," ++
              "\"curve\":[],\"overlay\":null\x7d" ∧
            library.deserialize? Frame (library.serialize broken) = none := by
  intro library whole broken
  obtain ⟨_, _, _, _, _, _, _, _, _, _, faithful⟩ :=
    texts_faithful library Json.library_isDocumented
  have finite : ∀ float, .float float ∈ numbers whole →
      float.isFinite = true := by
    change ∀ float, _ ∈ [Number.float (-0.0), .float 5e-324, .float 0.1,
      .float 2.0] → _
    simp only [List.mem_cons, Number.float.injEq, List.not_mem_nil, or_false]
    rintro float (rfl | rfl | rfl | rfl) <;> decide +kernel
  have small : ∀ count, .count count ∈ numbers whole → count < countBound := by
    change ∀ count, _ ∈ [Number.float (-0.0), .float 5e-324, .float 0.1,
      .float 2.0] → _
    simp
  have undefined : .float (0.0 / 0.0) ∈ numbers broken :=
    .tail _ (.tail _ (.head _))
  exact ⟨Json.library_isDocumented, by decide +kernel,
    faithful.reads_back whole finite small, by decide +kernel,
    faithful.refuses broken _ undefined (by decide)⟩

end RootFinding
