import PacketDissector.Epan.FrameSequenceContract
import PacketDissector.Sharkd.Session

/-! The radix tree of the frames stands for the list that the session is modelled with. -/

namespace PacketDissector.Sharkd

open PacketDissector.Epan

/-- Frames that are added one by one are found under their numbers as in their list. -/
theorem frameDataSequence_refinesList (frames : List FrameData) (room : frames.length < 2 ^ 32)
    : ∃ fds, Sequence.addFrames Sequence.newFrameDataSequence frames = some fds
        ∧ ∀ num, Sequence.frameDataSequenceFind (some fds) num
          = some (frameDataSequenceFind (some frames) num) := by
  obtain ⟨fds, added, stores⟩ := Sequence.addFrames_stores frames .null (by simpa using room)
  rw [List.nil_append] at stores
  exact ⟨fds, added, Sequence.frameDataSequenceFind_stores stores⟩

/-- A frame without marks. -/
def plainFrame (num : Nat) : FrameData :=
  ⟨num, 60, 0, 0, false, false, false, false, false, none, false, 0, 0⟩

/-- One leaf and one frame more. -/
theorem frameDataSequence_refinesList_two
    : ∃ fds, Sequence.addFrames Sequence.newFrameDataSequence ((List.range 1025).map plainFrame)
          = some fds
        ∧ ∀ num, Sequence.frameDataSequenceFind (some fds) num
          = some (frameDataSequenceFind (some ((List.range 1025).map plainFrame)) num) :=
  frameDataSequence_refinesList ((List.range 1025).map plainFrame) (by
    rw [List.length_map, List.length_range]
    decide)

end PacketDissector.Sharkd
