import TreeShell.CommandLine.Reading
import TreeShell.Proofs.Outcomes

/-! Values of flags. A flag is kept together with its value only once it has accepted that
value, on both sides of the verb, so what a command line asks for holds accepted values and
nothing else. -/

namespace TreeShell

namespace Reading

/-- Every flag has accepted the value that it was found with. -/
def Accepted (reading : Reading) : Prop :=
  ∀ entry ∈ reading.found, entry.1.value.accepts entry.2 = true

variable {reading after : Reading} {flags : List Flag} {flag : Flag} {argument value : String}

private theorem accepted_start : Accepted start := by
  intro entry member
  cases member

private theorem accepted_take (accepted : reading.Accepted) (taken : reading.take flag value = .ok after) :
    after.Accepted := by
  unfold take at taken
  split at taken
  · cases taken
  · split at taken
    · cases taken
    · rename_i judged
      cases taken
      intro entry member
      rcases List.mem_append.mp member with old | new
      · exact accepted entry old
      · cases List.mem_singleton.mp new
        simpa using judged

private theorem accepted_settle (accepted : reading.Accepted) (settled : reading.settle = .ok after) :
    after.Accepted := by
  unfold settle at settled
  split at settled
  · cases settled
    exact accepted
  · cases settled
  · have unjudged : Accepted { reading with pending := none } := accepted
    exact accepted_take unjudged settled

private theorem accepted_readLong {name : List Char} {attached : Option String} (accepted : reading.Accepted)
    (read : reading.readLong flags name attached = .ok after) : after.Accepted := by
  unfold readLong at read
  split at read
  · cases read
  · split at read
    · cases read
    · obtain ⟨settled, judged, rest⟩ := bind_eq_ok_iff.mp read
      split at rest
      · cases rest
      · exact accepted_take (accepted_settle accepted judged) rest
    · obtain ⟨settled, judged, rest⟩ := bind_eq_ok_iff.mp read
      exact accepted_take (accepted_settle accepted judged) rest
    · obtain ⟨settled, judged, rest⟩ := bind_eq_ok_iff.mp read
      cases rest
      have kept := accepted_settle accepted judged
      exact kept

theorem accepted_readFlag (accepted : reading.Accepted)
    (read : reading.readFlag flags argument = .ok (some after)) : after.Accepted := by
  unfold readFlag at read
  split at read
  · cases read
  · split at read
    · cases read
      exact accepted
    · obtain ⟨found, long, same⟩ := map_eq_ok_iff.mp read
      cases same
      exact accepted_readLong accepted long
    · -- The one letter that is known asks for help.
      obtain ⟨found, short, _⟩ := map_eq_ok_iff.mp read
      unfold readShort at short
      split at short
      · obtain ⟨_, _, never⟩ := bind_eq_ok_iff.mp short
        cases never
      · cases short
    · split at read
      · cases read
        exact accepted
      · cases read

private theorem accepted_readAfter {verb : Verb} (accepted : reading.Accepted)
    (read : readAfter verb reading argument = .ok after) : after.Accepted := by
  obtain ⟨result, flagged, rest⟩ := bind_eq_ok_iff.mp read
  cases result with
  | some found =>
    cases rest
    exact accepted_readFlag accepted flagged
  | none =>
    simp only at rest
    split at rest
    · obtain ⟨settled, judged, line⟩ := bind_eq_ok_iff.mp rest
      cases line
      have kept := accepted_settle accepted judged
      exact kept
    · cases rest

private theorem accepted_readBefore {arguments : List String} {more : Option (Verb × List String)}
    (accepted : reading.Accepted) (read : reading.readBefore arguments = .ok (after, more)) :
    after.Accepted := by
  induction arguments generalizing reading with
  | nil =>
    cases read
    exact accepted
  | cons argument rest ih =>
    simp only [readBefore] at read
    split at read
    · cases read
    · split at read
      · cases read
        exact accepted
      · split at read
        · cases read
        · rename_i found flagged
          exact ih (accepted_readFlag accepted flagged) read
        · cases read

theorem accepted_foldlM {verb : Verb} {arguments : List String} (accepted : reading.Accepted)
    (read : arguments.foldlM (readAfter verb) reading = .ok after) : after.Accepted := by
  induction arguments generalizing reading with
  | nil =>
    cases read
    exact accepted
  | cons argument rest ih =>
    rw [List.foldlM_cons] at read
    obtain ⟨next, step, onward⟩ := bind_eq_ok_iff.mp read
    exact ih (accepted_readAfter accepted step) onward

theorem accepts_of_value? (accepted : reading.Accepted) (given : reading.value? flag = some value) :
    flag.value.accepts value = true := by
  obtain ⟨before, later, split, _⟩ := List.lookup_eq_some_iff.mp given
  apply accepted (flag, value)
  rw [split]
  simp

end Reading

namespace Invocation
open Reading

theorem logFile_of_ofArguments {arguments : List String} {invocation : Invocation}
    (read : ofArguments arguments = .ok invocation) : invocation.logFile ≠ some "" := by
  obtain ⟨⟨before, more⟩, first, rest⟩ := bind_eq_ok_iff.mp read
  cases more with
  | none =>
    obtain ⟨_, _, never⟩ := bind_eq_ok_iff.mp rest
    cases never
  | some found =>
    obtain ⟨verb, others⟩ := found
    obtain ⟨last, onward, rest⟩ := bind_eq_ok_iff.mp rest
    obtain ⟨behind, judged, rest⟩ := bind_eq_ok_iff.mp rest
    obtain ⟨task, _, rest⟩ := bind_eq_ok_iff.mp rest
    obtain ⟨ahead, settled, rest⟩ := bind_eq_ok_iff.mp rest
    cases rest
    have acceptedBehind := accepted_settle (accepted_foldlM accepted_start onward) judged
    have acceptedAhead := accepted_settle (accepted_readBefore accepted_start first) settled
    intro empty
    rcases Option.or_eq_some_iff.mp empty with given | ⟨_, given⟩
    · cases accepts_of_value? acceptedBehind given
    · cases accepts_of_value? acceptedAhead given

end Invocation
end TreeShell
