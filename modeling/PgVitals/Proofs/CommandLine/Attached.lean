import PgVitals.CommandLine.Reader

/-!
# Flags with their values attached

An argument that names a flag by its long name and carries the value behind an equals sign is taken
into account at once, whatever the value looks like, and leaves nothing pending.
-/

namespace PgVitals

open Text

/-- The argument that gives a flag a value. -/
def Flag.attached (flag : Flag) (value : String) : String := "--" ++ flag.name ++ "=" ++ value

theorem Flag.ofName?_name (flag : Flag) : Flag.ofName? flag.name.toList = some flag := by
  cases flag <;> decide

theorem Flag.equals_notMem_name (flag : Flag) : '=' ∉ flag.name.toList := by
  cases flag <;> decide

namespace CommandLine

variable {r : Reading}

theorem argumentRead_attached (hended : r.ended = false) {flag : Flag}
    (htakes : flag.takesValue = true) (value : String) :
    argumentRead r (flag.attached value) = flagRead r flag (some value) := by
  -- No name of a flag has an equals sign, so the first one is that in front of the value.
  have hcut : cutAt? '=' (flag.name.toList ++ '=' :: value.toList) =
      some (flag.name.toList, value.toList) :=
    cutAt?_eq_some_iff.2 ⟨rfl, flag.equals_notMem_name⟩
  have hchars : (flag.attached value).toList =
      '-' :: '-' :: (flag.name.toList ++ '=' :: value.toList) := by
    simp [Flag.attached, String.toList_append]
  have hlong : longRead r (flag.name.toList ++ '=' :: value.toList) =
      flagRead r flag (some value) := by
    simp only [longRead, hcut, flag.ofName?_name, htakes, String.ofList_toList]
    rfl
  unfold argumentRead
  rw [hended, hchars]
  cases hname : flag.name.toList ++ '=' :: value.toList with
  | nil => simp at hname
  | cons c rest =>
    rw [hname] at hlong
    exact hlong

/-- One flag that may be given once is taken into account alone. -/
theorem read_attached {flag : Flag} (htakes : flag.takesValue = true) (value : String) :
    read [flag.attached value] = flag.apply value {} := by
  rw [read, argumentsRead, argumentRead_attached rfl htakes]
  cases happly : flag.apply value {} with
  | error refusal =>
    simp [flagRead, resolve, Reading.start, htakes, settle, happly, Except.map]
  | ok o =>
    simp [flagRead, resolve, Reading.start, htakes, settle, happly, Except.map, argumentsRead]

end CommandLine

end PgVitals
